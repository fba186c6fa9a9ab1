import Mathlib.Data.List.Basic
import Signpost.Proofs.Text.Cuts

/-!
# The lines of a text, found by their offsets

`Signpost.Text.lineAt?` finds a line by cutting at remembered offsets. What it finds is
described here without any offset: the lines of a text are its pieces between line feeds,
each without the carriage return that may end it (`Signpost.Text.rows`), and
`Signpost.Text.lineAt?_eq_rows` says that the two agree for every text and every number.

All of it rests on one picture of a text around a line,

    before ++ line ++ after

where `before` is made of whole lines (`Signpost.Text.Closed`), `line` holds no line feed,
and `after` is empty or starts with one (`Signpost.Text.Breaks`). The number of the line
is then the number of line feeds in `before`, and its offset is the length of `before`.

The second half is about positions. `Signpost.Position.behind` is the position of a cursor
that has a given text in front of it, as an editor counts it, and
`Signpost.Text.offsetOf?_behind` says that such a position leads back to the place it came
from – unless it stands between a carriage return and the end of the line, where no
position of this library can stand.
-/

namespace Signpost

namespace Text

/-! ### A text around a line -/

/-- **The lines of a text**, described without offsets: the pieces between the line feeds,
each without the carriage return that may end it. -/
def rows (t : Text) : List Text :=
  (t.splitOn '\n').map dropCarriageReturn

/-- A text of whole lines, each with its line feed. -/
def Closed (t : Text) : Prop :=
  t = [] ∨ ∃ front, t = front ++ ['\n']

/-- A text that leaves the line before it at once: it is empty or starts with a line
feed. -/
def Breaks (t : Text) : Prop :=
  t = [] ∨ ∃ rest, t = '\n' :: rest

theorem closed_nil : Closed [] := Or.inl rfl

theorem closed_snoc (t : Text) : Closed (t ++ ['\n']) := Or.inr ⟨t, rfl⟩

theorem Closed.append {t u : Text} (ht : Closed t) (hu : Closed u) : Closed (t ++ u) := by
  rcases hu with rfl | ⟨front, rfl⟩
  · simpa using ht
  · exact Or.inr ⟨t ++ front, by simp⟩

theorem breaks_cons (t : Text) : Breaks ('\n' :: t) := Or.inr ⟨t, rfl⟩

/-- Every text has a line at its end, with whole lines before it. -/
theorem exists_closed_append (t : Text) : ∃ a b, t = a ++ b ∧ Closed a ∧ '\n' ∉ b := by
  induction t with
  | nil => exact ⟨[], [], rfl, closed_nil, by simp⟩
  | cons c t ih =>
    obtain ⟨a, b, rfl, ha, hb⟩ := ih
    rcases ha with rfl | ⟨front, rfl⟩
    · by_cases hc : c = '\n'
      · exact ⟨[c], b, rfl, Or.inr ⟨[], by simp [hc]⟩, hb⟩
      · exact ⟨[], c :: b, rfl, closed_nil, by simp [hb, Ne.symm hc]⟩
    · exact ⟨c :: front ++ ['\n'], b, by simp, closed_snoc _, hb⟩

/-- Every text starts with a line, which it leaves at once or never. -/
theorem exists_append_breaks (t : Text) : ∃ a b, t = a ++ b ∧ '\n' ∉ a ∧ Breaks b := by
  induction t with
  | nil => exact ⟨[], [], rfl, by simp, Or.inl rfl⟩
  | cons c t ih =>
    by_cases hc : c = '\n'
    · exact ⟨[], c :: t, rfl, by simp, Or.inr ⟨t, by rw [hc]⟩⟩
    · obtain ⟨a, b, rfl, ha, hb⟩ := ih
      exact ⟨c :: a, b, rfl, by simp [ha, Ne.symm hc], hb⟩

/-- Up to the number of its line feeds, a text has the picture of this file around every
line. -/
theorem exists_row {t : Text} {n : Nat} (h : n ≤ t.count '\n') :
    ∃ before line after, t = before ++ line ++ after ∧ Closed before ∧ '\n' ∉ line ∧
      Breaks after ∧ before.count '\n' = n := by
  -- a character in front of a text joins the whole lines before the line, or the line itself
  induction t generalizing n with
  | nil =>
    refine ⟨[], [], [], rfl, closed_nil, by simp, Or.inl rfl, ?_⟩
    exact (Nat.le_zero.1 h).symm
  | cons c t ih =>
    by_cases hc : c = '\n'
    · subst hc
      rcases n with _ | n
      · exact ⟨[], [], '\n' :: t, rfl, closed_nil, by simp, breaks_cons t, rfl⟩
      · obtain ⟨before, line, after, rfl, hb, hl, ha, hn⟩ := ih (n := n) (by simpa using h)
        refine ⟨['\n'] ++ before, line, after, by simp, (closed_snoc []).append hb, hl, ha, ?_⟩
        simp [hn]
    · obtain ⟨before, line, after, rfl, hb, hl, ha, hn⟩ :=
        ih (n := n) (by simpa [hc] using h)
      rcases hb with rfl | ⟨front, rfl⟩
      · exact ⟨[], c :: line, after, rfl, closed_nil, by simp [hl, Ne.symm hc], ha, hn⟩
      · exact ⟨c :: front ++ ['\n'], line, after, by simp, closed_snoc _, hl, ha,
          by simpa [hc] using hn⟩

/-! ### Where lines start -/

theorem breaksFrom_append (offset : Nat) (a b : Text) :
    breaksFrom offset (a ++ b) = breaksFrom offset a ++ breaksFrom (offset + utf8Length a) b := by
  induction a generalizing offset with
  | nil => rfl
  | cons c a ih =>
    by_cases hc : c = '\n' <;> simp [breaksFrom, hc, ih, Nat.add_assoc]

theorem length_breaksFrom (offset : Nat) (t : Text) :
    (breaksFrom offset t).length = t.count '\n' := by
  induction t generalizing offset with
  | nil => rfl
  | cons c t ih =>
    by_cases hc : c = '\n' <;> simp [breaksFrom, hc, ih]

theorem length_lineStarts (t : Text) : (lineStarts t).length = t.count '\n' + 1 := by
  simp [lineStarts, length_breaksFrom]

theorem lineStarts_snoc_append (front rest : Text) :
    lineStarts (front ++ '\n' :: rest) =
      lineStarts front ++ (utf8Length front + 1) :: breaksFrom (utf8Length front + 1) rest := by
  have hsize : '\n'.utf8Size = 1 := by decide
  simp [lineStarts, breaksFrom_append, breaksFrom, hsize]

/-- **The line behind whole lines starts at their length.** -/
theorem lineStarts_getElem?_count {before : Text} (hb : Closed before) (rest : Text) :
    (lineStarts (before ++ rest))[before.count '\n']? = some (utf8Length before) := by
  rcases hb with rfl | ⟨front, rfl⟩
  · rfl
  · have hsize : '\n'.utf8Size = 1 := by decide
    have hlen : (front ++ ['\n']).count '\n' = (lineStarts front).length := by
      rw [length_lineStarts]
      simp
    rw [hlen, List.append_assoc, List.singleton_append, lineStarts_snoc_append]
    simp [hsize]

/-- **The next line starts one byte behind a line**, unless the line is the last one. -/
theorem lineStarts_getElem?_succ (before : Text) {line after : Text} (hl : '\n' ∉ line)
    (ha : Breaks after) :
    (lineStarts (before ++ line ++ after))[before.count '\n' + 1]? =
      if after = [] then none else some (utf8Length (before ++ line) + 1) := by
  have hnone := List.count_eq_zero_of_not_mem hl
  rcases ha with rfl | ⟨rest, rfl⟩
  · rw [if_pos rfl, List.append_nil, List.getElem?_eq_none_iff, length_lineStarts,
      List.count_append]
    omega
  · have hsize : '\n'.utf8Size = 1 := by decide
    have hcount : (before ++ line ++ ['\n']).count '\n' = before.count '\n' + 1 := by
      simp [hnone]
    have hnext := lineStarts_getElem?_count (closed_snoc (before ++ line)) rest
    rw [hcount, List.append_assoc _ ['\n'], List.singleton_append, utf8Length_append _ ['\n'],
      utf8Length_cons, hsize, utf8Length_nil] at hnext
    rw [if_neg (List.cons_ne_nil _ _), hnext]

/-! ### What is found there -/

/-- **A line is found between the line feeds around it.** -/
theorem lineAt?_of_row {before line after : Text} (hb : Closed before) (hl : '\n' ∉ line)
    (ha : Breaks after) :
    lineAt? (before ++ line ++ after) (before.count '\n') = some (dropCarriageReturn line) := by
  have hstart : (lineStarts (before ++ line ++ after))[before.count '\n']? =
      some (utf8Length before) := by
    rw [List.append_assoc]
    exact lineStarts_getElem?_count hb (line ++ after)
  -- the line ends at the end of the text, or one byte before the next line starts
  have hnext := lineStarts_getElem?_succ before hl ha
  have hslice := slice?_append before line after
  rcases ha with rfl | ⟨rest, rfl⟩
  · rw [if_pos rfl] at hnext
    rw [List.append_nil] at hslice hstart hnext ⊢
    simp [lineAt?, line?, hstart, hnext, hslice, -utf8Length_append]
  · rw [if_neg (List.cons_ne_nil _ _)] at hnext
    simp [lineAt?, line?, hstart, hnext, hslice, -utf8Length_append, -List.append_assoc]

theorem lineAt?_eq_none {t : Text} {n : Nat} (h : t.count '\n' < n) : lineAt? t n = none := by
  have hn : (lineStarts t)[n]? = none := by
    rw [List.getElem?_eq_none_iff, length_lineStarts]
    omega
  simp [lineAt?, line?, hn]

/-- A line that is found stands in its text, with the carriage return that may end it. -/
theorem exists_row_of_lineAt? {t line : Text} {n : Nat} (h : lineAt? t n = some line) :
    ∃ before raw after, t = before ++ raw ++ after ∧ Closed before ∧ '\n' ∉ raw ∧
      Breaks after ∧ before.count '\n' = n ∧ dropCarriageReturn raw = line := by
  rcases Nat.lt_or_ge (t.count '\n') n with hlt | hle
  · rw [lineAt?_eq_none hlt] at h
    cases h
  · obtain ⟨before, raw, after, rfl, hb, hl, ha, rfl⟩ := exists_row hle
    rw [lineAt?_of_row hb hl ha, Option.some.injEq] at h
    exact ⟨before, raw, after, rfl, hb, hl, ha, rfl, h⟩

/-- The piece between the line feeds around a line is the line. -/
theorem splitOn_getElem?_of_row {before line after : Text} (hb : Closed before)
    (hl : '\n' ∉ line) (ha : Breaks after) :
    ((before ++ line ++ after).splitOn '\n')[before.count '\n']? = some line := by
  have hhead : ((line ++ after).splitOn '\n')[0]? = some line := by
    rcases ha with rfl | ⟨rest, rfl⟩
    · rw [List.append_nil, List.splitOn_eq_singleton hl]
      rfl
    · rw [List.splitOn_append_cons_self_of_not_mem hl]
      rfl
  rcases hb with rfl | ⟨front, rfl⟩
  · exact hhead
  · have hlen : (front ++ ['\n']).count '\n' = (front.splitOn '\n').length := by
      rw [length_splitOn]
      simp
    rw [hlen, List.append_assoc, List.append_assoc, List.singleton_append,
      List.splitOn_append_cons_self, List.getElem?_append_right (Nat.le_refl _), Nat.sub_self,
      hhead]

theorem length_rows (t : Text) : (rows t).length = t.count '\n' + 1 := by
  rw [rows, List.length_map, length_splitOn]

/-- **The lines found by offsets are the pieces between line feeds.** -/
theorem lineAt?_eq_rows (t : Text) (n : Nat) : lineAt? t n = (rows t)[n]? := by
  rcases Nat.lt_or_ge (t.count '\n') n with h | h
  · rw [lineAt?_eq_none h, eq_comm, List.getElem?_eq_none_iff, length_rows]
    exact h
  · obtain ⟨before, line, after, rfl, hb, hl, ha, rfl⟩ := exists_row h
    rw [lineAt?_of_row hb hl ha, rows, List.getElem?_map, splitOn_getElem?_of_row hb hl ha]
    rfl

theorem isSome_lineAt?_iff {t : Text} {n : Nat} :
    (lineAt? t n).isSome ↔ n ≤ t.count '\n' := by
  rw [lineAt?_eq_rows, isSome_getElem?, length_rows, Nat.lt_succ_iff]

/-! ### Lines away from a cut -/

/-- **A line that ends before a cut** does not depend on what comes behind it. -/
theorem lineAt?_append_left (a : Text) {n : Nat} (h : n < a.count '\n') (b c : Text) :
    lineAt? (a ++ b) n = lineAt? (a ++ c) n := by
  obtain ⟨before, line, after, rfl, hb, hl, ha, rfl⟩ := exists_row (Nat.le_of_lt h)
  -- the line has a line feed behind it, or there would be no later line
  rcases ha with rfl | ⟨rest, rfl⟩
  · simp [List.count_eq_zero_of_not_mem hl] at h
  · have hfound : ∀ d, lineAt? (before ++ line ++ '\n' :: rest ++ d) (before.count '\n') =
        some (dropCarriageReturn line) := by
      intro d
      rw [List.append_assoc, List.cons_append]
      exact lineAt?_of_row hb hl (breaks_cons _)
    rw [hfound, hfound]

/-- **A line that starts behind a cut** does not depend on what comes before it, but for its
number. -/
theorem lineAt?_append_right (a a' b : Text) (n : Nat) :
    lineAt? (a ++ b) (a.count '\n' + (n + 1)) = lineAt? (a' ++ b) (a'.count '\n' + (n + 1)) := by
  rcases Nat.lt_or_ge (b.count '\n') (n + 1) with h | h
  · rw [lineAt?_eq_none (by rw [List.count_append]; omega),
      lineAt?_eq_none (by rw [List.count_append]; omega)]
  · obtain ⟨before, line, after, rfl, hb, hl, ha, hn⟩ := exists_row h
    have hfound : ∀ d : Text, lineAt? (d ++ (before ++ line ++ after)) (d.count '\n' + (n + 1)) =
        some (dropCarriageReturn line) := by
      intro d
      have hclosed : Closed (d ++ before) := by
        rcases hb with rfl | ⟨front, rfl⟩
        · simp at hn
        · exact Or.inr ⟨d ++ front, by simp⟩
      have hline := lineAt?_of_row hclosed hl ha
      rw [List.count_append, hn] at hline
      rw [← hline]
      simp
    rw [hfound, hfound]

/-! ### Carriage returns -/

theorem dropCarriageReturn_snoc (t : Text) : dropCarriageReturn (t ++ ['\r']) = t := by
  simp [dropCarriageReturn]

theorem dropCarriageReturn_of_ne {t : Text} (h : t.getLast? ≠ some '\r') :
    dropCarriageReturn t = t := by
  rw [dropCarriageReturn, if_neg h]

/-- Only the end of a line is looked at. -/
theorem dropCarriageReturn_append_of_ne_nil (a : Text) {b : Text} (h : b ≠ []) :
    dropCarriageReturn (a ++ b) = a ++ dropCarriageReturn b := by
  rw [dropCarriageReturn, dropCarriageReturn, List.getLast?_append_of_ne_nil _ h]
  split
  · exact List.dropLast_append_of_ne_nil h
  · rfl

/-- A cut behind `front` falls between a carriage return and the end of its line. -/
def SplitsBreak (front rest : Text) : Prop :=
  front.getLast? = some '\r' ∧ Breaks rest

/-- Where a line is not cut inside its terminator, what stands in front of the cut is
there when the carriage return is gone. -/
theorem dropCarriageReturn_append {front rest after : Text} (ha : Breaks after)
    (h : ¬ SplitsBreak front (rest ++ after)) :
    ∃ kept, dropCarriageReturn (front ++ rest) = front ++ kept := by
  rcases rest.eq_nil_or_concat' with rfl | ⟨init, c, rfl⟩
  · have hne : front.getLast? ≠ some '\r' := fun hr => h ⟨hr, ha⟩
    exact ⟨[], by rw [List.append_nil, dropCarriageReturn_of_ne hne]⟩
  · by_cases hc : c = '\r'
    · exact ⟨init, by rw [hc, ← List.append_assoc, dropCarriageReturn_snoc]⟩
    · refine ⟨init ++ [c], dropCarriageReturn_of_ne ?_⟩
      simp [hc]

/-! ### Positions -/

/-- What a text holds since its last line feed. -/
def sinceBreak (t : Text) : Text :=
  (t.reverse.takeWhile (· != '\n')).reverse

theorem sinceBreak_append {a b : Text} (ha : Closed a) (hb : '\n' ∉ b) :
    sinceBreak (a ++ b) = b := by
  have hall : ∀ c ∈ b.reverse, (c != '\n') = true := by
    intro c hc
    have hmem : c ∈ b := List.mem_reverse.1 hc
    have hne : c ≠ '\n' := fun h => hb (h ▸ hmem)
    simpa using hne
  rw [sinceBreak, List.reverse_append, List.takeWhile_append_of_pos hall]
  rcases ha with rfl | ⟨front, rfl⟩
  · simp
  · simp

end Text

/-- **The position behind a text**, as an editor counts it: the line feeds of the text, and
the UTF-16 units since the last of them. -/
def Position.behind (front : Text) : Position :=
  ⟨front.count '\n', utf16Length front.sinceBreak⟩

namespace Text

/-- **A position leads back to where it was taken**, unless that is inside the terminator
of a line. -/
theorem offsetOf?_behind {front rest : Text} (h : ¬ SplitsBreak front rest) :
    offsetOf? (front ++ rest) (Position.behind front) = some (utf8Length front) := by
  obtain ⟨a, b, rfl, ha, hb⟩ := exists_closed_append front
  obtain ⟨c, d, rfl, hc, hd⟩ := exists_append_breaks rest
  have htext : a ++ b ++ (c ++ d) = a ++ (b ++ c) ++ d := by simp
  have hline : '\n' ∉ b ++ c := by simp [hb, hc]
  -- what ends the text in front of the cut also ends its last line
  have hcut : ¬ SplitsBreak b (c ++ d) := by
    rintro ⟨hr, hbreak⟩
    exact h ⟨by simp [List.getLast?_append, hr], hbreak⟩
  obtain ⟨kept, hkept⟩ := dropCarriageReturn_append hd hcut
  have hfound := lineAt?_of_row ha hline hd
  have hstart : (lineStarts (a ++ (b ++ c) ++ d))[a.count '\n']? = some (utf8Length a) := by
    rw [List.append_assoc]
    exact lineStarts_getElem?_count ha _
  have hcount : (a ++ b).count '\n' = a.count '\n' := by
    simp [List.count_eq_zero_of_not_mem hb]
  rw [htext, Position.behind, hcount, sinceBreak_append ha hb, offsetOf?]
  rw [lineAt?, hkept] at hfound
  simp [hstart, hfound, byteOfColumn?_append, -List.append_assoc]

end Text

end Signpost
