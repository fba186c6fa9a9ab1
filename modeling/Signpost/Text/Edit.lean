import Signpost.Text.Lines

/-!
# Edits

A client reports what it typed as a list of changes. A change either replaces the
whole text or puts a new text in the place of a range. Changes of one report are
applied in order, each to the outcome of the one before, so the positions of a later
change speak of the text that the earlier ones produced.

Nothing a client sends can make an edit fail. A position on a line that does not
exist stands for the end of the text, a column past the end of its line for the end
of that line, and a range whose end comes before its start is empty at its start.
-/

namespace Signpost

/-- One change of a text. -/
structure Change where
  /-- The range that is replaced; without one the whole text is. -/
  range : Option Range
  /-- What takes its place. -/
  text : Text
deriving DecidableEq, Repr

namespace Text

/-- The byte offset of a position, the end of the text standing in for a line that
does not exist. -/
def offsetOrEnd (t : Text) (p : Position) : Nat :=
  (offsetOf? t p).getD (utf8Length t)

/-- Puts `replacement` in the place of the bytes from `start` to `stop`. -/
def splice (t : Text) (start stop : Nat) (replacement : Text) : Text :=
  takeBytes t start ++ replacement ++ dropBytes t stop

end Text

namespace Change

/-- The byte offsets between which a ranged change replaces a text: the end is never
taken before the start. -/
def bounds (range : Range) (t : Text) : Nat × Nat :=
  let start := t.offsetOrEnd range.start
  (start, max (t.offsetOrEnd range.stop) start)

/-- The text after one change. -/
def apply (change : Change) (t : Text) : Text :=
  match change.range with
  | none => change.text
  | some range =>
    let (start, stop) := bounds range t
    t.splice start stop change.text

/-- The text after a list of changes, each applied to the outcome of the one
before. -/
def applyAll (changes : List Change) (t : Text) : Text :=
  changes.foldl (fun t change => change.apply t) t

end Change

end Signpost
