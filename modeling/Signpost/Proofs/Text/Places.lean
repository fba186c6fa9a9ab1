import Mathlib.Order.Bounds.Basic
import Signpost.Proofs.Text.Splices

/-!
# Positions lead to the next boundary of their line

A client may ask for any column of a line: one inside a surrogate pair, one behind the end. The
offset of a position is then the offset of a place where a cursor can stand, and the rule is the
same for all columns: **the first boundary of the line at or behind the column, or the end of the
line if there is none** (`Signpost.Text.located_positions`).

The boundaries of a line are counted in bytes from the start of the text and in UTF-16 units from
the start of the line (`Signpost.Text.OnLine`). A boundary at or behind a column has all the
characters in front of it that begin before the column (`Signpost.Text.takeColumns_isPrefix_of_le`).
These characters are therefore the least that can stand there, whether or not they end at the column
exactly. It does not matter that the conversion of a column inside the pair that ends a line fails,
because the end of the line, which takes its place, is the end of the pair.
-/

namespace Signpost.Text

/-! ### The characters that begin before a column -/

/-- **What stands in front of a boundary at or behind a column** has all the characters that begin
before the column. -/
theorem takeColumns_isPrefix_of_le {line front : Text} {column : Nat} (h : front <+: line)
    (hle : column ≤ utf16Length front) : takeColumns line column <+: front := by
  obtain ⟨back, rfl⟩ := h
  have hprefix := takeColumns_isPrefix_takeColumns (front ++ back) hle
  rwa [takeColumns_append] at hprefix

/-- **The characters that begin before a column reach the column**, if the line does. -/
theorem le_utf16Length_takeColumns {line : Text} {column : Nat} (h : column ≤ utf16Length line) :
    column ≤ utf16Length (takeColumns line column) := by
  induction line generalizing column with
  | nil =>
    obtain rfl : column = 0 := Nat.le_zero.1 h
    exact Nat.le_refl _
  | cons c line ih =>
    cases column with
    | zero => exact Nat.zero_le _
    | succ u =>
      rw [utf16Length_cons] at h
      have hrest : u + 1 - utf16Size c ≤ utf16Length (takeColumns line (u + 1 - utf16Size c)) :=
        ih (by omega)
      rw [takeColumns, utf16Length_cons]
      omega

/-- Before a column that the line does not reach is the whole line. -/
theorem takeColumns_of_lt {line : Text} {column : Nat} (h : utf16Length line < column) :
    takeColumns line column = line := by
  obtain ⟨n, rfl⟩ : ∃ n, column = utf16Length line + (n + 1) :=
    ⟨column - utf16Length line - 1, by omega⟩
  have hpast := takeColumns_append_add line [] (n + 1)
  rwa [takeColumns, List.append_nil] at hpast

/-- A character that begins before a column is there as a whole. -/
theorem takeColumns_inside {front : Text} {c : Char} {column : Nat}
    (hlow : utf16Length front < column) (hhigh : column ≤ utf16Length front + utf16Size c)
    (back : Text) : takeColumns (front ++ c :: back) column = front ++ [c] := by
  obtain ⟨n, rfl⟩ : ∃ n, column = utf16Length front + (n + 1) :=
    ⟨column - utf16Length front - 1, by omega⟩
  have hnone : n + 1 - utf16Size c = 0 := by omega
  rw [takeColumns_append_add, takeColumns, hnone]
  cases back <;> rfl

/-! ### The boundaries of a line -/

/-- **A boundary of line `n`**, by its byte offset in the text and its column: it lies between the
start of the line and the end of its text, so not inside or behind what ends the line. -/
def OnLine (t : Text) (n byte column : Nat) : Prop :=
  ∃ above line below front, t = above ++ line ++ below ∧ Closed above ∧ '\n' ∉ line ∧
    Breaks below ∧ above.count '\n' = n ∧ front <+: dropCarriageReturn line ∧
    utf8Length (above ++ front) = byte ∧ utf16Length front = column

/-- **The boundaries at or behind a position**: those of its line that have at least its column. -/
def boundariesFrom (t : Text) (p : Position) : Set Nat :=
  {byte | ∃ column, t.OnLine p.line byte column ∧ p.character ≤ column}

section Row

variable {above line below : Text} (habove : Closed above) (hline : '\n' ∉ line)
  (hbelow : Breaks below)

include habove hline hbelow

/-- **A text is divided in one way only around a line**, so its boundaries are those of one
division. -/
theorem onLine_iff_of_row {byte column : Nat} :
    OnLine (above ++ line ++ below) (above.count '\n') byte column ↔
      ∃ front, front <+: dropCarriageReturn line ∧ utf8Length (above ++ front) = byte ∧
        utf16Length front = column := by
  constructor
  · rintro ⟨above', line', below', front, ht, ha, hl, hb, hn, hfront, rfl, rfl⟩
    have hstart := lineStarts_getElem?_count habove (line ++ below)
    have hfound := lineAt?_of_row habove hline hbelow
    -- the same line is found in both divisions, and at the same offset
    rw [← List.append_assoc, ht, ← hn, List.append_assoc, lineStarts_getElem?_count ha,
      Option.some.injEq] at hstart
    rw [ht, ← hn, lineAt?_of_row ha hl hb, Option.some.injEq] at hfound
    refine ⟨front, hfound ▸ hfront, ?_, rfl⟩
    rw [utf8Length_append, utf8Length_append, hstart]
  · rintro ⟨front, hfront, hbyte, hcolumn⟩
    exact ⟨above, line, below, front, rfl, habove, hline, hbelow, rfl, hfront, hbyte, hcolumn⟩

theorem mem_boundariesFrom_of_row {byte column : Nat} :
    byte ∈ boundariesFrom (above ++ line ++ below) ⟨above.count '\n', column⟩ ↔
      ∃ front, front <+: dropCarriageReturn line ∧ utf8Length (above ++ front) = byte ∧
        column ≤ utf16Length front := by
  constructor
  · rintro ⟨column', honline, hle⟩
    obtain ⟨front, hfront, hbyte, rfl⟩ := (onLine_iff_of_row habove hline hbelow).1 honline
    exact ⟨front, hfront, hbyte, hle⟩
  · rintro ⟨front, hfront, hbyte, hle⟩
    exact ⟨_, (onLine_iff_of_row habove hline hbelow).2 ⟨front, hfront, hbyte, rfl⟩, hle⟩

theorem isLeast_takeColumns {column : Nat}
    (hle : column ≤ utf16Length (dropCarriageReturn line)) :
    IsLeast (boundariesFrom (above ++ line ++ below) ⟨above.count '\n', column⟩)
      (utf8Length (above ++ takeColumns (dropCarriageReturn line) column)) := by
  refine ⟨(mem_boundariesFrom_of_row habove hline hbelow).2
    ⟨_, takeColumns_isPrefix _ _, rfl, le_utf16Length_takeColumns hle⟩, ?_⟩
  intro byte hbyte
  obtain ⟨front, hfront, rfl, hcolumn⟩ := (mem_boundariesFrom_of_row habove hline hbelow).1 hbyte
  obtain ⟨more, hmore⟩ := takeColumns_isPrefix_of_le hfront hcolumn
  rw [← hmore, ← List.append_assoc, utf8Length_append _ more]
  omega

theorem isGreatest_line :
    IsGreatest (boundariesFrom (above ++ line ++ below) ⟨above.count '\n', 0⟩)
      (utf8Length (above ++ dropCarriageReturn line)) := by
  refine ⟨(mem_boundariesFrom_of_row habove hline hbelow).2
    ⟨_, List.prefix_rfl, rfl, Nat.zero_le _⟩, ?_⟩
  intro byte hbyte
  obtain ⟨front, ⟨more, hmore⟩, rfl, -⟩ := (mem_boundariesFrom_of_row habove hline hbelow).1 hbyte
  rw [← hmore, ← List.append_assoc, utf8Length_append _ more]
  omega

theorem boundariesFrom_eq_empty {column : Nat}
    (hlt : utf16Length (dropCarriageReturn line) < column) :
    boundariesFrom (above ++ line ++ below) ⟨above.count '\n', column⟩ = ∅ := by
  refine Set.eq_empty_of_forall_notMem fun byte hbyte => ?_
  obtain ⟨front, ⟨more, hmore⟩, -, hcolumn⟩ :=
    (mem_boundariesFrom_of_row habove hline hbelow).1 hbyte
  rw [← hmore, utf16Length_append] at hlt
  omega

end Row

/-! ### Positions -/

/-- **Where the positions of a text lead.** -/
structure Located (t : Text) : Prop where
  /-- A position leads nowhere exactly if it has no line. -/
  eq_none_iff : ∀ p, offsetOf? t p = none ↔ t.count '\n' < p.line
  /-- It leads to the first boundary of its line at or behind its column, or to the last boundary of
  the line if there is none. -/
  least : ∀ p, p.line ≤ t.count '\n' → ∃ byte, offsetOf? t p = some byte ∧
    (IsLeast (t.boundariesFrom p) byte ∨
      t.boundariesFrom p = ∅ ∧ IsGreatest (t.boundariesFrom ⟨p.line, 0⟩) byte)
  /-- From the column inside a surrogate pair it leads behind the pair, wherever the pair stands. -/
  behind_pair : ∀ front c rest, t = front ++ c :: rest → utf16Size c = 2 →
    offsetOf? t ⟨front.count '\n', utf16Length front.sinceBreak + 1⟩ =
      some (utf8Length (front ++ [c]))
  /-- Later positions do not lead to earlier places. -/
  monotone : ∀ p q byte byte', p ≤ q → offsetOf? t p = some byte → offsetOf? t q = some byte' →
    byte ≤ byte'

theorem offsetOf?_eq_none_iff {t : Text} {p : Position} :
    offsetOf? t p = none ↔ t.count '\n' < p.line := by
  refine ⟨fun hnone => ?_, offsetOf?_eq_none⟩
  by_contra hnot
  obtain ⟨n, column⟩ := p
  obtain ⟨above, line, below, rfl, habove, hline, hbelow, rfl⟩ := exists_row (Nat.le_of_not_lt hnot)
  rw [offsetOf?_of_row habove hline hbelow] at hnone
  cases hnone

/-- **A position on a line leads to the first boundary at or behind its column.** -/
theorem exists_offsetOf?_isLeast {t : Text} {p : Position} (h : p.line ≤ t.count '\n') :
    ∃ byte, offsetOf? t p = some byte ∧
      (IsLeast (t.boundariesFrom p) byte ∨
        t.boundariesFrom p = ∅ ∧ IsGreatest (t.boundariesFrom ⟨p.line, 0⟩) byte) := by
  obtain ⟨n, column⟩ := p
  obtain ⟨above, line, below, rfl, habove, hline, hbelow, rfl⟩ := exists_row h
  refine ⟨_, offsetOf?_of_row habove hline hbelow column, ?_⟩
  rcases Nat.lt_or_ge (utf16Length (dropCarriageReturn line)) column with hlt | hle
  · refine Or.inr ⟨boundariesFrom_eq_empty habove hline hbelow hlt, ?_⟩
    rw [takeColumns_of_lt hlt]
    exact isGreatest_line habove hline hbelow
  · exact Or.inl (isLeast_takeColumns habove hline hbelow hle)

/-- **The column inside a surrogate pair leads behind the pair**, also where the pair ends its
line. -/
theorem offsetOf?_behind_pair (front rest : Text) {c : Char} (h : utf16Size c = 2) :
    offsetOf? (front ++ c :: rest) ⟨front.count '\n', utf16Length front.sinceBreak + 1⟩ =
      some (utf8Length (front ++ [c])) := by
  obtain ⟨a, b, rfl, ha, hb⟩ := exists_closed_append front
  obtain ⟨d, e, rfl, hd, he⟩ := exists_append_breaks rest
  have hfeed : c ≠ '\n' := by
    rintro rfl
    revert h
    decide
  have hreturn : c ≠ '\r' := by
    rintro rfl
    revert h
    decide
  have htext : a ++ b ++ c :: (d ++ e) = a ++ (b ++ [c] ++ d) ++ e := by simp
  have hline : '\n' ∉ b ++ [c] ++ d := by simp [hb, hd, hfeed.symm]
  -- the pair is not what a carriage return would be taken away from
  have hcut : ¬ SplitsBreak (b ++ [c]) (d ++ e) := by
    rintro ⟨hlast, -⟩
    rw [List.getLast?_concat, Option.some.injEq] at hlast
    exact hreturn hlast
  obtain ⟨kept, hkept⟩ := dropCarriageReturn_append he hcut
  have hcount : (a ++ b).count '\n' = a.count '\n' := by
    simp [List.count_eq_zero_of_not_mem hb]
  rw [htext, hcount, sinceBreak_append ha hb, offsetOf?_of_row ha hline he, hkept, List.append_assoc,
    List.singleton_append, takeColumns_inside (by omega) (by omega), List.append_assoc]

/-- **Every position of a text leads to the next boundary of its line**, and in the order of
positions. -/
theorem located_positions (t : Text) : t.Located where
  eq_none_iff _ := offsetOf?_eq_none_iff
  least _ h := exists_offsetOf?_isLeast h
  behind_pair front c rest ht hsize := by
    subst ht
    exact offsetOf?_behind_pair front rest hsize
  monotone p q byte byte' hpq hp hq := by
    have hle := offsetOrEnd_le t hpq
    rwa [offsetOrEnd, offsetOrEnd, hp, hq] at hle

/-- The column inside a pair that ends its line: the first boundary behind it is the end of the line,
before the carriage return. -/
theorem located_positions_last_pair :
    let t : Text := "ab\r\n😀\r\n".toList
    1 ≤ t.count '\n' ∧ offsetOf? t ⟨1, 1⟩ = some 8 ∧ IsLeast (t.boundariesFrom ⟨1, 1⟩) 8 := by
  intro t
  have hline : 1 ≤ t.count '\n' := by decide
  obtain ⟨byte, hbyte, hleast⟩ := (located_positions t).least ⟨1, 1⟩ hline
  have height : offsetOf? t ⟨1, 1⟩ = some 8 := by decide +kernel
  obtain rfl : byte = 8 := Option.some.inj (hbyte.symm.trans height)
  have hmem : 8 ∈ t.boundariesFrom ⟨1, 1⟩ :=
    ⟨2, ⟨"ab\r\n".toList, "😀\r".toList, ['\n'], ['😀'], rfl, closed_snoc "ab\r".toList,
      by decide, breaks_cons [], by decide, by decide, by decide, by decide⟩, by decide⟩
  refine ⟨hline, height, hleast.resolve_right ?_⟩
  rintro ⟨hempty, -⟩
  rw [hempty] at hmem
  exact hmem

end Signpost.Text
