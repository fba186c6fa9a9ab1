import Signpost.Toml.Fault

/-!
# Tokens of TOML

A text is cut into tokens: signs, blanks, line ends, comments, quoted strings, and **atoms**,
which are whatever is left between them. A string that is not closed ends with its line, or
with the text if it is one of several lines. So every text can be cut, and the tokens make
up the text; what is wrong with a token is found out when it is read.
-/

namespace Signpost.Toml

/-- A kind of tokens. -/
inductive TokenKind where
  /-- A dot. -/
  | dot
  /-- An equals sign. -/
  | equals
  /-- A comma. -/
  | comma
  /-- An opening bracket. -/
  | openBracket
  /-- A closing bracket. -/
  | closeBracket
  /-- An opening brace. -/
  | openBrace
  /-- A closing brace. -/
  | closeBrace
  /-- Blanks and tabs. -/
  | blank
  /-- The end of a line. -/
  | newline
  /-- A comment. -/
  | comment
  /-- A string without escapes. -/
  | literal
  /-- A string with escapes. -/
  | basic
  /-- A string without escapes on several lines. -/
  | multilineLiteral
  /-- A string with escapes on several lines. -/
  | multilineBasic
  /-- Anything else. -/
  | atom
deriving DecidableEq, Repr

/-- A token. -/
structure Token where
  /-- Its kind. -/
  kind : TokenKind
  /-- Where it starts. -/
  start : Nat
  /-- Its characters. -/
  text : Text
deriving DecidableEq, Repr

namespace Token

/-- Where a token stops. -/
def stop (token : Token) : Nat :=
  token.start + token.text.length

/-- The part of the text that a token is. -/
def extent (token : Token) : Extent := ⟨token.start, token.stop⟩

/-- The place before a token. -/
def before (token : Token) : Extent := .at token.start

/-- The place behind a token. -/
def after (token : Token) : Extent := .at token.stop

/-- A token without characters, for something that is missing at a place. -/
def missing (place : Nat) : Token := ⟨.atom, place, []⟩

/-- Two tokens that stand side by side as one. -/
def join (first second : Token) : Token :=
  { first with text := first.text ++ second.text }

end Token

/-! ### Cutting -/

/-- A blank inside a line. -/
def isBlank (c : Char) : Bool :=
  c = ' ' || c = '\t'

/-- The characters that end an atom. -/
def endsAtom (c : Char) : Bool :=
  ".=,[]\x7b\x7d \t#\r\n".toList.contains c

/-- The length of a string without escapes behind its opening quote. -/
def literalLength (t : Text) : Nat :=
  match t.span (fun c => c ≠ '\'' && c ≠ '\n') with
  | (s, '\'' :: _) => s.length + 1
  | (s, _) => s.length

/-- The length of a string with escapes behind its opening quote. -/
def basicLength : Text → Nat
  | [] => 0
  | '\\' :: '\\' :: rest => basicLength rest + 2
  | '\\' :: '"' :: rest => basicLength rest + 2
  | c :: rest => if c = '"' then 1 else if c = '\n' then 0 else basicLength rest + 1

/-- The number of quotes at the start of a text that close a string on several lines: three,
and up to two more that belong to the string. -/
def closingLength (quote : Char) (t : Text) : Nat :=
  min 5 (t.takeWhile (· = quote)).length

/-- The length of a string without escapes on several lines behind its opening quotes. -/
def multilineLiteralLength : Text → Nat
  | [] => 0
  | '\'' :: '\'' :: '\'' :: rest => 3 + closingLength '\'' (rest.take 2)
  | _ :: rest => multilineLiteralLength rest + 1

/-- The length of a string with escapes on several lines behind its opening quotes. -/
def multilineBasicLength : Text → Nat
  | [] => 0
  | '\\' :: '\\' :: rest => multilineBasicLength rest + 2
  | '\\' :: '"' :: rest => multilineBasicLength rest + 2
  | '"' :: '"' :: '"' :: rest => 3 + closingLength '"' (rest.take 2)
  | _ :: rest => multilineBasicLength rest + 1

/-- The kind and the length of the token at the start of a text that is not empty. -/
def nextToken (c : Char) (rest : Text) : TokenKind × Nat :=
  match c, rest with
  | '.', _ => (.dot, 1)
  | '=', _ => (.equals, 1)
  | ',', _ => (.comma, 1)
  | '[', _ => (.openBracket, 1)
  | ']', _ => (.closeBracket, 1)
  | '\x7b', _ => (.openBrace, 1)
  | '\x7d', _ => (.closeBrace, 1)
  | '#', rest => (.comment, 1 + (rest.takeWhile fun c => c ≠ '\r' && c ≠ '\n').length)
  | '\n', _ => (.newline, 1)
  | '\r', '\n' :: _ => (.newline, 2)
  | '\r', _ => (.newline, 1)
  | '\'', '\'' :: '\'' :: rest => (.multilineLiteral, 3 + multilineLiteralLength rest)
  | '\'', rest => (.literal, 1 + literalLength rest)
  | '"', '"' :: '"' :: rest => (.multilineBasic, 3 + multilineBasicLength rest)
  | '"', rest => (.basic, 1 + basicLength rest)
  | c, rest =>
    if isBlank c then (.blank, 1 + (rest.takeWhile isBlank).length)
    else (.atom, 1 + (rest.takeWhile fun c => !endsAtom c).length)

/-- The tokens of a text that starts at a place. The fuel is the number of characters. -/
def tokensFrom : Nat → Nat → Text → List Token
  | 0, _, _ => []
  | _, _, [] => []
  | fuel + 1, place, c :: rest =>
    let (kind, length) := nextToken c rest
    ⟨kind, place, (c :: rest).take length⟩ ::
      tokensFrom fuel (place + length) (rest.drop (length - 1))

/-- The mark that may stand in front of a text to name its encoding. -/
def byteOrderMark : Char := '\uFEFF'

/-- The tokens of a text. -/
def tokens (t : Text) : List Token :=
  match t with
  | c :: rest =>
    if c = byteOrderMark then tokensFrom rest.length 1 rest else tokensFrom t.length 0 t
  | [] => []

end Signpost.Toml
