import Mathlib.Data.List.Basic
import Signpost.Proofs.Text.Lines

/-!
# Edits as the client means them and as it reports them

A client edits its own copy of a text and knows nothing of bytes: it puts a text in the
place of the characters between two offsets (`Signpost.Edit`). What it sends is the same
edit in the language of positions (`Signpost.Edit.report`). The other side then has to find
the two places again, in bytes, in *its* copy.

It does, and the statement to take away is `Signpost.Edit.applyAll_reportAll`: a report of
any number of edits, each about the outcome of the one before, has exactly the effect that
the client meant. The one thing a client must not do is to put an end of an edit between a
carriage return and the end of its line (`Signpost.Edit.Fair`): no position names that
place.
-/

namespace Signpost

/-- An edit of a text by the one who holds it. -/
inductive Edit where
  /-- Puts a text in the place of the characters between two offsets. -/
  | replace (start stop : Nat) (text : Text)
  /-- Puts a text in the place of everything. -/
  | rewrite (text : Text)

namespace Edit

/-! ### What an edit means -/

/-- The text after an edit. -/
def apply : Edit → Text → Text
  | replace start stop text, copy => copy.take start ++ text ++ copy.drop stop
  | rewrite text, _ => text

/-- The text after some edits, each of the outcome of the one before. -/
def applyAll : List Edit → Text → Text
  | [], copy => copy
  | edit :: edits, copy => applyAll edits (edit.apply copy)

/-! ### What is said about it -/

/-- The change that tells of an edit: offsets become positions. -/
def report : Edit → Text → Change
  | replace start stop text, copy =>
    ⟨some ⟨.behind (copy.take start), .behind (copy.take stop)⟩, text⟩
  | rewrite text, _ => ⟨none, text⟩

/-- The changes that tell of some edits, each of the outcome of the one before. -/
def reportAll : List Edit → Text → List Change
  | [], _ => []
  | edit :: edits, copy => edit.report copy :: reportAll edits (edit.apply copy)

/-- **An edit that can be told**: its offsets are offsets of the text, in order, and neither
lies between a carriage return and the end of its line. -/
def Fair : Edit → Text → Prop
  | replace start stop _, copy =>
    start ≤ stop ∧ stop ≤ copy.length ∧
      ¬ Text.SplitsBreak (copy.take start) (copy.drop start) ∧
      ¬ Text.SplitsBreak (copy.take stop) (copy.drop stop)
  | rewrite _, _ => True

/-- Edits that can be told, each of the outcome of the one before. -/
def FairAll : List Edit → Text → Prop
  | [], _ => True
  | edit :: edits, copy => edit.Fair copy ∧ FairAll edits (edit.apply copy)

/-! ### Reports have the effect of edits -/

theorem offsetOrEnd_behind {copy : Text} {n : Nat}
    (h : ¬ Text.SplitsBreak (copy.take n) (copy.drop n)) :
    copy.offsetOrEnd (.behind (copy.take n)) = utf8Length (copy.take n) := by
  have hback := Text.offsetOf?_behind h
  rw [List.take_append_drop] at hback
  rw [Text.offsetOrEnd, hback]
  rfl

/-- **One report has the effect of its edit.** -/
theorem apply_report {edit : Edit} {copy : Text} (h : edit.Fair copy) :
    (edit.report copy).apply copy = edit.apply copy := by
  cases edit with
  | rewrite text => rfl
  | replace start stop text =>
    obtain ⟨hle, -, hstart, hstop⟩ := h
    -- the text in front of the end is that in front of the start and what is replaced
    obtain ⟨middle, hmiddle⟩ : ∃ middle, copy.take stop = copy.take start ++ middle := by
      obtain ⟨middle, hm⟩ := List.take_prefix_take_left (l := copy) hle
      exact ⟨middle, hm.symm⟩
    have hmax : max (utf8Length (copy.take stop)) (utf8Length (copy.take start)) =
        utf8Length (copy.take stop) := by
      rw [hmiddle, utf8Length_append]
      omega
    have hcopy : copy = copy.take start ++ middle ++ copy.drop stop := by
      rw [← hmiddle, List.take_append_drop]
    have hsplice := Text.splice_append (copy.take start) middle (copy.drop stop) text
    rw [← hcopy, ← hmiddle] at hsplice
    simp only [report, Change.apply, Change.bounds, offsetOrEnd_behind hstart,
      offsetOrEnd_behind hstop, hmax, apply]
    exact hsplice

/-- **A report of any number of edits has the effect that was meant.** -/
theorem applyAll_reportAll {edits : List Edit} {copy : Text} (h : FairAll edits copy) :
    Change.applyAll (reportAll edits copy) copy = applyAll edits copy := by
  induction edits generalizing copy with
  | nil => rfl
  | cons edit edits ih =>
    obtain ⟨hedit, hedits⟩ := h
    have hstep := apply_report hedit
    have hrest := ih hedits
    simp only [Change.applyAll] at hrest ⊢
    rw [reportAll, List.foldl_cons, hstep, hrest, applyAll]

end Edit

end Signpost
