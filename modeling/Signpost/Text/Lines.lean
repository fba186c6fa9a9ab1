import Signpost.Text.Columns

/-!
# The lines of a text

A line ends at a line feed and at nothing else. One carriage return right before
the line feed – or right before the end of the text – belongs to the terminator and
is not part of the line, so documents with either kind of line ending have the same
lines.

A document keeps the byte offsets at which its lines start, so that a line is found
without walking the text from the top. `Text.line?` therefore takes these offsets as
an argument, and makes no assumption on them: offsets that do not fit the text give
no line.
-/

namespace Signpost.Text

/-- The offsets right after each line feed of a text that starts at `offset`. -/
def breaksFrom (offset : Nat) : Text → List Nat
  | [] => []
  | c :: t =>
    let next := offset + c.utf8Size
    if c = '\n' then next :: breaksFrom next t else breaksFrom next t

/-- The byte offsets at which the lines of a text start. -/
def lineStarts (t : Text) : List Nat :=
  0 :: breaksFrom 0 t

/-- A line without the one carriage return that may end it. -/
def dropCarriageReturn (t : Text) : Text :=
  if t.getLast? = some '\r' then t.dropLast else t

/-- The text of line `n`, without its terminator, when the lines start at the given
offsets. -/
def line? (t : Text) (starts : List Nat) (n : Nat) : Option Text := do
  let start ← starts[n]?
  let stop ← match starts[n + 1]? with
    | none => some (utf8Length t)
    -- the line feed stands right before the next start, and none does before offset 0
    | some 0 => none
    | some (next + 1) => some next
  let raw ← slice? t start stop
  return dropCarriageReturn raw

/-- The text of line `n`, without its terminator. -/
def lineAt? (t : Text) (n : Nat) : Option Text :=
  line? t (lineStarts t) n

/-- All lines of a text, in order. -/
def lines (t : Text) : List Text :=
  let starts := lineStarts t
  (List.range starts.length).filterMap (line? t starts)

/-- The byte offset of a position. A column beyond the end of its line is taken back
to the end; there is no offset only when there is no such line. -/
def offsetOf? (t : Text) (p : Position) : Option Nat := do
  let starts := lineStarts t
  let start ← starts[p.line]?
  let line ← line? t starts p.line
  return start + (byteOfColumn? line p.character).getD (utf8Length line)

end Signpost.Text
