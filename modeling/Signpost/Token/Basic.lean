import Signpost.Text.Columns

/-!
# Tokens in their line

A token is a piece of a line together with what stands before and after it. Keeping
the surroundings instead of two offsets has a price – the line is stored in three
parts – and buys the one thing that matters here: whatever is asked about the place
of a token, in bytes or in columns, is a measure of `Token.before`, and no
conversion can fail.

Tokens come out of a line by a **leftmost scan**. A recogniser looks at the text from
some character on and says whether a token, with its delimiters, starts right there.
The scan tries it at every character from left to right, and after a match goes on
behind the closing delimiter, so matches never overlap.
-/

namespace Signpost

/-- A piece of a line with what stands around it. -/
structure Token where
  /-- The line up to the token. -/
  before : Text
  /-- The token. -/
  content : Text
  /-- The line from the token on. -/
  after : Text
deriving DecidableEq, Repr

namespace Token

/-- The line of a token. -/
def line (k : Token) : Text :=
  k.before ++ k.content ++ k.after

/-- The columns of a token. -/
def span (k : Token) : Span :=
  ⟨utf16Length k.before, utf16Length k.before + utf16Length k.content⟩

/-- The byte offset at which a token starts. -/
def startByte (k : Token) : Nat :=
  utf8Length k.before

/-- The byte offset right behind a token. -/
def stopByte (k : Token) : Nat :=
  utf8Length k.before + utf8Length k.content

end Token

/-- What a recogniser finds at the start of a text: a token between two
delimiters. -/
structure Enclosed where
  /-- The opening delimiter. -/
  opening : Text
  /-- The token. -/
  content : Text
  /-- The closing delimiter. -/
  closing : Text
deriving DecidableEq, Repr

namespace Enclosed

/-- The number of characters of a match, delimiters included. -/
def width (e : Enclosed) : Nat :=
  e.opening.length + e.content.length + e.closing.length

/-- The matched text. -/
def text (e : Enclosed) : Text :=
  e.opening ++ e.content ++ e.closing

end Enclosed

/-- A recogniser says what starts right at the beginning of a text. -/
abbrev Recogniser := Text → Option Enclosed

namespace Token

/-- The scan from the middle of a line: `seen` is what has been passed, in reverse,
and the next `skip` characters belong to the last match. -/
def scanFrom (recognise : Recogniser) : Nat → Text → Text → List Token
  | _, _, [] => []
  | skip + 1, seen, c :: rest => scanFrom recognise skip (c :: seen) rest
  | 0, seen, c :: rest =>
    match recognise (c :: rest) with
    | none => scanFrom recognise 0 (c :: seen) rest
    | some e =>
      { before := seen.reverse ++ e.opening
        content := e.content
        after := (c :: rest).drop (e.opening.length + e.content.length) }
        :: scanFrom recognise (e.width - 1) (c :: seen) rest

/-- The tokens of a line, from left to right and without overlap. -/
def scan (recognise : Recogniser) (line : Text) : List Token :=
  scanFrom recognise 0 [] line

/-- The first token of a line whose span covers a column. -/
def find? (recognise : Recogniser) (line : Text) (column : Nat) : Option Token :=
  (scan recognise line).find? fun k => k.span.Covers column

end Token

end Signpost
