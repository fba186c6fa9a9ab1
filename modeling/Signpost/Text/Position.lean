import Signpost.Text.Basic

/-!
# Positions, ranges and spans

A position names a line and a UTF-16 column on it, both counted from zero. A range
is two positions; a span is two columns of one line.

The one thing to know about a span is that it is **closed at both ends**: a cursor
that stands right behind the last character of a token is still on the token. So
two spans that merely touch share a column, and it takes the delimiters between
two tokens to keep their spans apart.
-/

namespace Signpost

/-- A line and a UTF-16 column on it, both counted from zero. -/
structure Position where
  /-- The line, counted from zero. -/
  line : Nat
  /-- The column in UTF-16 units, counted from zero. -/
  character : Nat
deriving DecidableEq, Repr, Inhabited

namespace Position

/-- The order of reading: by line, then by column. -/
protected def le (p q : Position) : Prop :=
  p.line < q.line ∨ (p.line = q.line ∧ p.character ≤ q.character)

instance : LE Position := ⟨Position.le⟩

theorem le_iff {p q : Position} :
    p ≤ q ↔ p.line < q.line ∨ (p.line = q.line ∧ p.character ≤ q.character) := Iff.rfl

instance (p q : Position) : Decidable (p ≤ q) :=
  inferInstanceAs (Decidable (_ ∨ _))

end Position

/-- Two positions of a document. Nothing says that they are in order: a client may
send them reversed. -/
structure Range where
  /-- Where the range begins. -/
  start : Position
  /-- Where the range ends. -/
  stop : Position
deriving DecidableEq, Repr, Inhabited

/-- The empty range at the very start of a document, where a jump into a file
lands. -/
def Range.origin : Range := ⟨⟨0, 0⟩, ⟨0, 0⟩⟩

/-- Two columns of one line. -/
structure Span where
  /-- The first column. -/
  start : Nat
  /-- One past the last column. -/
  stop : Nat
deriving DecidableEq, Repr, Inhabited

namespace Span

/-- A column is on a span when it lies between its ends, **both ends included**. -/
def Covers (s : Span) (column : Nat) : Prop :=
  s.start ≤ column ∧ column ≤ s.stop

instance (s : Span) (column : Nat) : Decidable (s.Covers column) :=
  inferInstanceAs (Decidable (_ ∧ _))

/-- The span as a range of the given line. -/
def onLine (s : Span) (line : Nat) : Range :=
  ⟨⟨line, s.start⟩, ⟨line, s.stop⟩⟩

end Span

end Signpost
