import Mathlib.Data.List.Infix
import Signpost.Proofs.Text.Lines

/-!
# What stands in front of a position

A change is told by two positions and carried out at two byte offsets. Between the two stands
a notion that needs neither columns nor bytes: **the text in front of a position**
(`Signpost.Text.front`). On a line that exists it is made of the whole lines before that line
and of as many characters of the line as its column asks for (`Signpost.Text.front_of_row`);
for any other position it is the whole text (`Signpost.Text.front_of_missing`).

What matters of a change is then said without offsets. It keeps what stands in front of its
start and what stands behind its end, and puts the new text between them
(`Signpost.Change.apply_of_front_append`). If its end comes first, the end does not count
(`Signpost.Change.apply_of_front_isPrefix`). Two fronts of one text are always comparable, so
these are all the cases there are (`Signpost.Change.exists_apply`).
-/

namespace Signpost

namespace Text

/-! ### Columns -/

/-- The characters of a line that begin before a column. -/
def takeColumns : Text → Nat → Text
  | _, 0 => []
  | [], _ + 1 => []
  | c :: t, u + 1 => c :: takeColumns t (u + 1 - utf16Size c)

theorem takeColumns_isPrefix (t : Text) (u : Nat) : takeColumns t u <+: t := by
  induction t generalizing u with
  | nil => cases u <;> exact List.prefix_rfl
  | cons c t ih =>
    cases u with
    | zero => exact List.nil_prefix
    | succ u => exact List.cons_prefix_cons.2 ⟨rfl, ih _⟩

/-- **A column leads behind the characters that begin before it**, and to the end of the line
if the line has no more. -/
theorem byteOfColumn?_getD (t : Text) (u : Nat) :
    (byteOfColumn? t u).getD (utf8Length t) = utf8Length (takeColumns t u) := by
  induction t generalizing u with
  | nil => cases u <;> rfl
  | cons c t ih =>
    cases u with
    | zero => rfl
    | succ u =>
      rw [byteOfColumn?, takeColumns, utf8Length_cons, utf8Length_cons, ← ih]
      split
      · cases byteOfColumn? t (u + 1 - utf16Size c) <;> rfl
      · -- the column is inside the character, which may be the last one of the line
        rename_i hinside
        rw [Nat.sub_eq_zero_of_le (by omega)]
        cases t <;> rfl

/-- Before a column behind a piece of the line are that piece and the characters behind it that
begin before the column. -/
theorem takeColumns_append_add (a b : Text) (u : Nat) :
    takeColumns (a ++ b) (utf16Length a + u) = a ++ takeColumns b u := by
  induction a with
  | nil => simp
  | cons c a ih =>
    have hc := utf16Size_pos c
    obtain ⟨n, hn⟩ : ∃ n, utf16Size c + utf16Length a + u = n + 1 :=
      ⟨utf16Size c + utf16Length a + u - 1, by omega⟩
    have hsub : n + 1 - utf16Size c = utf16Length a + u := by omega
    rw [utf16Length_cons, hn, List.cons_append, takeColumns, hsub, ih, List.cons_append]

/-- The characters before the column of a boundary are those in front of the boundary. -/
theorem takeColumns_append (a b : Text) : takeColumns (a ++ b) (utf16Length a) = a := by
  have hpast := takeColumns_append_add a b 0
  rwa [takeColumns, List.append_nil] at hpast

theorem dropCarriageReturn_isPrefix (t : Text) : dropCarriageReturn t <+: t := by
  unfold dropCarriageReturn
  split
  · exact List.dropLast_prefix t
  · exact List.prefix_rfl

theorem notMem_of_lineAt? {t line : Text} {n : Nat} (h : lineAt? t n = some line) :
    '\n' ∉ line := by
  obtain ⟨before, raw, after, rfl, -, hraw, -, -, rfl⟩ := exists_row_of_lineAt? h
  exact fun hmem => hraw ((dropCarriageReturn_isPrefix raw).subset hmem)

/-! ### Positions -/

/-- **The text in front of a position.** -/
def front (t : Text) (p : Position) : Text :=
  t.takeBytes (t.offsetOrEnd p)

/-- What the columns of a line leave of it is a piece of the line, with its terminator. -/
theorem exists_takeColumns_append (line : Text) (column : Nat) :
    ∃ rest, line = takeColumns (dropCarriageReturn line) column ++ rest := by
  obtain ⟨rest, hrest⟩ :=
    (takeColumns_isPrefix (dropCarriageReturn line) column).trans (dropCarriageReturn_isPrefix line)
  exact ⟨rest, hrest.symm⟩

theorem offsetOf?_of_row {before line after : Text} (hb : Closed before) (hl : '\n' ∉ line)
    (ha : Breaks after) (column : Nat) :
    offsetOf? (before ++ line ++ after) ⟨before.count '\n', column⟩ =
      some (utf8Length (before ++ takeColumns (dropCarriageReturn line) column)) := by
  have hstart : (lineStarts (before ++ line ++ after))[before.count '\n']? =
      some (utf8Length before) := by
    rw [List.append_assoc]
    exact lineStarts_getElem?_count hb (line ++ after)
  have hfound := lineAt?_of_row hb hl ha
  rw [lineAt?] at hfound
  simp [offsetOf?, hstart, hfound, byteOfColumn?_getD, -List.append_assoc]

theorem offsetOf?_eq_none {t : Text} {p : Position} (h : t.count '\n' < p.line) :
    offsetOf? t p = none := by
  have hn : (lineStarts t)[p.line]? = none := by
    rw [List.getElem?_eq_none_iff, length_lineStarts]
    omega
  simp [offsetOf?, hn]

/-- A cut at the length of a front is that front. -/
theorem front_eq_of_offsetOrEnd {a b : Text} {p : Position}
    (h : (a ++ b).offsetOrEnd p = utf8Length a) : (a ++ b).front p = a := by
  rw [front, h, takeBytes_append]

/-- **In front of a position are the lines before its line**, and the characters of its line
that begin before its column. -/
theorem front_of_row {before line after : Text} (hb : Closed before) (hl : '\n' ∉ line)
    (ha : Breaks after) (column : Nat) :
    front (before ++ line ++ after) ⟨before.count '\n', column⟩ =
      before ++ takeColumns (dropCarriageReturn line) column := by
  have hoffset := offsetOf?_of_row hb hl ha column
  obtain ⟨rest, hrest⟩ := exists_takeColumns_append line column
  have htext : before ++ line ++ after =
      before ++ takeColumns (dropCarriageReturn line) column ++ (rest ++ after) := by
    conv_lhs => rw [hrest]
    simp
  rw [htext] at hoffset ⊢
  refine front_eq_of_offsetOrEnd ?_
  rw [offsetOrEnd, hoffset]
  rfl

/-- **In front of a line that does not exist is everything.** -/
theorem front_of_missing {t : Text} {p : Position} (h : t.count '\n' < p.line) :
    t.front p = t := by
  have hend : (t ++ []).offsetOrEnd p = utf8Length t := by
    rw [List.append_nil, offsetOrEnd, offsetOf?_eq_none h]
    rfl
  have hfront := front_eq_of_offsetOrEnd hend
  rwa [List.append_nil] at hfront

theorem front_isPrefix (t : Text) (p : Position) : t.front p <+: t :=
  ⟨t.dropBytes (t.offsetOrEnd p), takeBytes_append_dropBytes t _⟩

/-- The offset of a position is the length of what stands in front of it, so it never falls
inside a character. -/
theorem offsetOrEnd_eq (t : Text) (p : Position) : t.offsetOrEnd p = utf8Length (t.front p) := by
  rcases Nat.lt_or_ge (t.count '\n') p.line with h | h
  · rw [front_of_missing h, offsetOrEnd, offsetOf?_eq_none h]
    rfl
  · obtain ⟨n, column⟩ := p
    obtain ⟨before, line, after, rfl, hb, hl, ha, rfl⟩ := exists_row h
    rw [front_of_row hb hl ha, offsetOrEnd, offsetOf?_of_row hb hl ha]
    rfl

/-- **The line feeds in front of a position give its line.** -/
theorem count_front {t : Text} {p : Position} (h : p.line ≤ t.count '\n') :
    (t.front p).count '\n' = p.line := by
  obtain ⟨n, column⟩ := p
  obtain ⟨before, line, after, rfl, hb, hl, ha, rfl⟩ := exists_row h
  obtain ⟨rest, hrest⟩ := exists_takeColumns_append line column
  have hnone : '\n' ∉ takeColumns (dropCarriageReturn line) column := by
    intro hmem
    refine hl ?_
    rw [hrest]
    exact List.mem_append_left rest hmem
  rw [front_of_row hb hl ha, List.count_append, List.count_eq_zero_of_not_mem hnone]
  rfl

end Text

/-! ### Changes -/

namespace Change

variable {t a middle back replacement : Text} {range : Range}

/-- **A change puts its text between what stands in front of its start and what stands behind
its end.** -/
theorem apply_of_front_append (hstart : t.front range.start = a)
    (hstop : t.front range.stop = a ++ middle) (ht : t = a ++ middle ++ back) :
    Change.apply ⟨some range, replacement⟩ t = a ++ replacement ++ back := by
  have hmax : max (utf8Length (a ++ middle)) (utf8Length a) = utf8Length (a ++ middle) := by
    rw [utf8Length_append]
    omega
  simp only [apply, bounds, Text.offsetOrEnd_eq, hstart, hstop, hmax]
  rw [ht]
  exact Text.splice_append a middle back replacement

/-- **An end that comes before the start does not count.** -/
theorem apply_of_front_isPrefix (hstart : t.front range.start = a)
    (hstop : t.front range.stop <+: a) (ht : t = a ++ back) :
    Change.apply ⟨some range, replacement⟩ t = a ++ replacement ++ back := by
  obtain ⟨more, hmore⟩ := hstop
  have hmax : max (utf8Length (t.front range.stop)) (utf8Length a) = utf8Length a := by
    rw [← hmore, utf8Length_append]
    omega
  simp only [apply, bounds, Text.offsetOrEnd_eq, hstart, hmax]
  have hsplice := Text.splice_append a [] back replacement
  rw [List.append_nil, ← ht] at hsplice
  exact hsplice

/-- **Every change of a range is a replacement**: of three parts of the text it keeps the first
and the last. The first is what stands in front of its start, and the middle reaches to its end
unless that comes first. -/
theorem exists_apply (t : Text) (range : Range) :
    ∃ a middle back, t = a ++ middle ++ back ∧ t.front range.start = a ∧
      (t.front range.stop = a ++ middle ∨ middle = [] ∧ t.front range.stop <+: a) ∧
      ∀ replacement, Change.apply ⟨some range, replacement⟩ t = a ++ replacement ++ back := by
  have hstart := t.front_isPrefix range.start
  have hstop := t.front_isPrefix range.stop
  rcases List.prefix_or_prefix_of_prefix hstart hstop with hle | hle
  · obtain ⟨middle, hmiddle⟩ := hle
    obtain ⟨back, hback⟩ := hstop
    rw [← hmiddle] at hback
    exact ⟨_, middle, back, hback.symm, rfl, Or.inl hmiddle.symm, fun replacement =>
      apply_of_front_append rfl hmiddle.symm hback.symm⟩
  · obtain ⟨back, hback⟩ := hstart
    refine ⟨_, [], back, ?_, rfl, Or.inr ⟨rfl, hle⟩, fun replacement =>
      apply_of_front_isPrefix rfl hle hback.symm⟩
    rw [List.append_nil, hback]

/-- **A change of some columns of a line replaces what stands there**, if the line goes on behind
them and stays one line. -/
theorem lineAt?_apply {n : Nat} {b c r : Text} (h : t.lineAt? n = some (a ++ b ++ c))
    (hc : c ≠ []) (hr : '\n' ∉ r) :
    (Change.apply ⟨some ⟨⟨n, utf16Length a⟩, ⟨n, utf16Length (a ++ b)⟩⟩, r⟩ t).lineAt? n =
      some (a ++ r ++ c) := by
  obtain ⟨above, raw, below, rfl, habove, hfeed, hbelow, rfl, hline⟩ :=
    Text.exists_row_of_lineAt? h
  -- behind the line there may be a carriage return, which stays where it is
  obtain ⟨ending, hraw⟩ := Text.dropCarriageReturn_isPrefix raw
  rw [hline] at hraw
  have hfront := Text.front_of_row habove hfeed hbelow
  have hstart : (above ++ raw ++ below).front ⟨above.count '\n', utf16Length a⟩ = above ++ a := by
    rw [hfront, hline, List.append_assoc a, Text.takeColumns_append]
  have hstop : (above ++ raw ++ below).front ⟨above.count '\n', utf16Length (a ++ b)⟩ =
      above ++ a ++ b := by
    rw [hfront, hline, Text.takeColumns_append, List.append_assoc]
  have htext : above ++ raw ++ below = above ++ a ++ b ++ (c ++ ending ++ below) := by
    rw [← hraw]
    simp
  have hending : Text.dropCarriageReturn (c ++ ending) = c := by
    have hne : c ++ ending ≠ [] := List.append_ne_nil_of_left_ne_nil hc ending
    rw [← hraw, List.append_assoc, Text.dropCarriageReturn_append_of_ne_nil _ hne] at hline
    exact List.append_cancel_left hline
  have hnew : '\n' ∉ a ++ r ++ (c ++ ending) := by
    rw [← hraw] at hfeed
    simp only [List.mem_append, not_or] at hfeed ⊢
    exact ⟨⟨hfeed.1.1.1, hr⟩, hfeed.1.2, hfeed.2⟩
  have hfound := Text.lineAt?_of_row habove hnew hbelow
  rw [Text.dropCarriageReturn_append_of_ne_nil _ (List.append_ne_nil_of_left_ne_nil hc ending),
    hending] at hfound
  rw [apply_of_front_append hstart hstop htext, ← hfound]
  simp

end Change

end Signpost
