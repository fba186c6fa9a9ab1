import Signpost.Text.Digits
import Signpost.Toml.Outline

/-!
# Strings of TOML

There are four kinds of strings: with or without escapes, on one line or on several. A
token of such a kind has its quotes with it, at least the opening ones. Reading it takes
the quotes away and puts characters in the place of escapes. Line ends stay as they are
written.

A reader walks over the characters one at a time. Where several of them belong together, as
in an escape, it emits what they stand for at the first one and **skips** the rest, so that
every call is on a shorter list.
-/

namespace Signpost.Toml

/-- What follows the line feed at the start of a text, which may have a carriage return
before it. -/
def newline? : Text → Option Text
  | '\n' :: rest => some rest
  | '\r' :: '\n' :: rest => some rest
  | _ => none

/-! ### Escapes -/

/-- The character that `count` hexadecimal digits at the start of a text stand for. -/
def scalarValue (place count : Nat) (t : Text) : Except Fault Char :=
  let digits := (t.take count).takeWhile (Digits.isOf 16)
  let n := Digits.number 16 digits
  if digits.length < count then fail .escapeShort (.at (place + digits.length))
  else if n < 0xD800 || (0xDFFF < n && n < 0x110000) then .ok (Char.ofNat n)
  else fail .escapeInvalid (.at place)

/-- The character of an escape behind its backslash, and how many characters the escape
takes there. -/
def escape (place : Nat) : Text → Except Fault (Char × Nat)
  | 'b' :: _ => .ok ('\x08', 1)
  | 't' :: _ => .ok ('\t', 1)
  | 'n' :: _ => .ok ('\n', 1)
  | 'f' :: _ => .ok ('\x0c', 1)
  | 'r' :: _ => .ok ('\r', 1)
  | 'e' :: _ => .ok ('\x1b', 1)
  | '"' :: _ => .ok ('"', 1)
  | '\\' :: _ => .ok ('\\', 1)
  | 'x' :: rest => (·, 3) <$> scalarValue (place + 1) 2 rest
  | 'u' :: rest => (·, 5) <$> scalarValue (place + 1) 4 rest
  | 'U' :: rest => (·, 9) <$> scalarValue (place + 1) 8 rest
  | _ => fail .escape (.at place)

/-- How many characters behind a backslash are passed over because it ends its line: the
blanks and line ends up to the next character. -/
def continued? (t : Text) : Option Nat :=
  match newline? (t.dropWhile isBlank) with
  | none => none
  | some rest => some (t.length - (past rest).length)
where
  /-- Drops blanks and line ends. -/
  past : Text → Text
    | ' ' :: rest => past rest
    | '\t' :: rest => past rest
    | '\n' :: rest => past rest
    | '\r' :: '\n' :: rest => past rest
    | rest => rest

/-! ### The inside of a string -/

/-- A kind of strings. -/
structure StringKind where
  /-- How a message calls it. -/
  name : String
  /-- Its quote. -/
  quote : Char
  /-- Whether it may go over several lines. -/
  multiline : Bool
  /-- Whether it has escapes. -/
  escapes : Bool

namespace StringKind

/-- How a message calls the characters that may stand as themselves. -/
def visible (kind : StringKind) : String :=
  let name := if kind.quote = '"' then "double" else "single"
  let plain := "non-" ++ name ++ "-quote visible characters"
  if kind.escapes then plain ++ ", `\\`" else plain

/-- Whether a character may stand as itself. -/
def allows (kind : StringKind) (c : Char) : Bool :=
  isPlain c || (kind.multiline && c = '\n')

/-- The inside of a string, from a place on and after `skip` more characters. -/
def inside (kind : StringKind) (skip place : Nat) : Text → Except Fault Text
  | [] => .ok []
  | c :: rest =>
    match skip with
    | skip + 1 => kind.inside skip (place + 1) rest
    | 0 =>
      if kind.escapes && c = '\\' then
        match if kind.multiline then continued? rest else none with
        | some n => kind.inside n (place + 1) rest
        | none => do
          let (d, n) ← escape (place + 1) rest
          return d :: (← kind.inside n (place + 1) rest)
      else if kind.multiline && c = '\r' && rest.head? ≠ some '\n' then
        fail .carriageReturn (.at (place + 1))
      else if kind.allows c || (kind.multiline && c = '\r') then do
        return c :: (← kind.inside 0 (place + 1) rest)
      else
        let run := (c :: rest).takeWhile fun c => !kind.allows c
        fail (.string kind.name kind.visible) ⟨place, place + run.length⟩

/-- The quotes around a string. -/
def quotes (kind : StringKind) : Text :=
  List.replicate (if kind.multiline then 3 else 1) kind.quote

/-- Reads a token of the kind. A line end right behind the opening quotes of several lines
is not part of the string. -/
def read (kind : StringKind) (token : Token) : Except Fault Text :=
  let quotes := kind.quotes
  let opened := token.text.drop quotes.length
  let opened := if kind.multiline then (newline? opened).getD opened else opened
  if quotes.isSuffixOf opened then
    let place := token.stop - opened.length
    kind.inside 0 place (opened.take (opened.length - quotes.length))
  else
    fail (.string kind.name ("`" ++ String.ofList [kind.quote] ++ "`")) token.after

end StringKind

/-- The kind of strings that a kind of tokens stands for. -/
def TokenKind.string? : TokenKind → Option StringKind
  | .literal => some ⟨"literal string", '\'', false, false⟩
  | .basic => some ⟨"basic string", '"', false, true⟩
  | .multilineLiteral => some ⟨"multi-line literal string", '\'', true, false⟩
  | .multilineBasic => some ⟨"multi-line basic string", '"', true, true⟩
  | _ => none

end Signpost.Toml
