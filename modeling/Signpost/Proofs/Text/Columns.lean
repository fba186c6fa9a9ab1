import Signpost.Proofs.Text.Splices

/-!
# Columns and bytes of a line, both ways

The two conversions of a line are two walks, and they stop for different reasons: one where enough
bytes have gone by, the other where enough UTF-16 units have. What they have in common are the
boundaries between characters, where both measures are defined (`Signpost.Text.Aligned`). There each
walk undoes the other.

Elsewhere they differ. A byte offset that is no boundary falls inside a character and has no column.
A column that is no boundary is either beyond the end of the line or **inside a surrogate pair**
(`Signpost.Text.column_cases`), and a pair has only one column inside. From there the walk goes on to
the end of the pair, so that the column comes back as the next one
(`Signpost.Text.inverse_columns`).

It can only do so if it is still walking. Behind the last character of the line it looks once more,
for the column itself and not for one that it has passed. So the column inside a pair that ends the
line has no byte, as if it were beyond the end, and it is the only one for which this is so
(`Signpost.Text.byteOfColumn?_eq_none_iff`).
-/

namespace Signpost.Text

variable {line : Text} {byte column : Nat}

/-! ### Boundaries, and columns between them -/

/-- **A boundary of a line in both measures**: so many bytes and so many columns stand in front
of it. -/
def Aligned (line : Text) (byte column : Nat) : Prop :=
  ∃ front back, line = front ++ back ∧ utf8Length front = byte ∧ utf16Length front = column

/-- **A column inside a surrogate pair**: a character begins before it and ends behind it. -/
def InsidePair (line : Text) (column : Nat) : Prop :=
  ∃ front c back, line = front ++ c :: back ∧
    utf16Length front < column ∧ column < utf16Length front + utf16Size c

theorem utf16Size_le_two (c : Char) : utf16Size c ≤ 2 := by
  unfold utf16Size
  split <;> decide

theorem exists_aligned_iff : (∃ column, line.Aligned byte column) ↔ line.IsBoundary byte := by
  constructor
  · rintro ⟨-, front, back, hline, hbyte, -⟩
    exact ⟨front, back, hline, hbyte⟩
  · rintro ⟨front, back, hline, hbyte⟩
    exact ⟨_, front, back, hline, hbyte, rfl⟩

/-- **No boundary is inside a pair**: of two pieces at the start of a line one goes on where the
other ends, and the longer one has the whole pair. -/
theorem Aligned.not_insidePair (h : line.Aligned byte column) : ¬ line.InsidePair column := by
  rintro ⟨front, c, back, hpair, hlow, hhigh⟩
  obtain ⟨front', back', hline, -, rfl⟩ := h
  have hfront : front <+: line := ⟨c :: back, hpair.symm⟩
  have hfront' : front' <+: line := ⟨back', hline.symm⟩
  rcases List.prefix_or_prefix_of_prefix hfront hfront' with ⟨more, rfl⟩ | ⟨more, rfl⟩
  · rw [hpair, List.append_assoc] at hline
    have hmore := List.append_cancel_left hline
    rcases more with _ | ⟨d, more⟩
    · simp at hlow
    · obtain rfl : c = d := (List.cons.inj hmore).1
      simp only [utf16Length_append, utf16Length_cons] at hhigh
      omega
  · rw [utf16Length_append] at hlow
    omega

/-- **Three kinds of columns**: those of boundaries, those inside a pair, and those beyond the end
of the line. -/
theorem column_cases (line : Text) (column : Nat) :
    (∃ byte, line.Aligned byte column) ∨ line.InsidePair column ∨ utf16Length line < column := by
  induction line generalizing column with
  | nil =>
    rcases Nat.eq_zero_or_pos column with rfl | hpos
    · exact Or.inl ⟨0, [], [], rfl, rfl, rfl⟩
    · exact Or.inr (Or.inr hpos)
  | cons c line ih =>
    rcases Nat.eq_zero_or_pos column with rfl | hpos
    · exact Or.inl ⟨0, [], c :: line, rfl, rfl, rfl⟩
    rcases Nat.lt_or_ge column (utf16Size c) with hlt | hge
    · exact Or.inr (Or.inl ⟨[], c, line, rfl, hpos, by simpa using hlt⟩)
    -- behind the first character the rest of the line decides
    obtain ⟨rest, rfl⟩ : ∃ rest, column = utf16Size c + rest := ⟨column - utf16Size c, by omega⟩
    rcases ih rest with ⟨-, front, back, rfl, -, rfl⟩ | ⟨front, d, back, rfl, hlow, hhigh⟩ | hlt
    · exact Or.inl ⟨_, c :: front, back, rfl, rfl, rfl⟩
    · refine Or.inr (Or.inl ⟨c :: front, d, back, rfl, ?_, ?_⟩)
      · rw [utf16Length_cons]
        omega
      · rw [utf16Length_cons]
        omega
    · refine Or.inr (Or.inr ?_)
      rw [utf16Length_cons]
      omega

/-! ### The two walks -/

/-- **A byte offset has a column exactly at a boundary**, and then it is the column of the
boundary. -/
theorem columnOfByte?_eq_some_iff :
    columnOfByte? line byte = some column ↔ line.Aligned byte column := by
  constructor
  · intro h
    -- in front of offset 0 is nothing, and any other offset needs a character that fits
    induction line generalizing byte column with
    | nil =>
      cases byte with
      | zero => exact ⟨[], [], rfl, rfl, Option.some.inj h⟩
      | succ n => cases h
    | cons c line ih =>
      cases byte with
      | zero => exact ⟨[], c :: line, rfl, rfl, Option.some.inj h⟩
      | succ n =>
        rw [columnOfByte?] at h
        split at h
        · obtain ⟨rest, hrest, rfl⟩ := Option.map_eq_some_iff.1 h
          obtain ⟨front, back, rfl, hbyte, rfl⟩ := ih hrest
          refine ⟨c :: front, back, rfl, ?_, rfl⟩
          rw [utf8Length_cons, hbyte]
          omega
        · cases h
  · rintro ⟨front, back, rfl, rfl, rfl⟩
    exact columnOfByte?_append front back

theorem byteOfColumn?_of_aligned (h : line.Aligned byte column) :
    byteOfColumn? line column = some byte := by
  obtain ⟨front, back, rfl, rfl, rfl⟩ := h
  exact byteOfColumn?_append front back

/-- **A column inside a pair is rounded up**, to the byte behind the pair. If the pair ends the
line, the walk has run out of characters before it finds an answer. -/
theorem byteOfColumn?_inside {front : Text} {c : Char} (hlow : utf16Length front < column)
    (hhigh : column < utf16Length front + utf16Size c) (back : Text) :
    byteOfColumn? (front ++ c :: back) column =
      if back = [] then none else some (utf8Length (front ++ [c])) := by
  obtain ⟨n, rfl⟩ : ∃ n, column = utf16Length front + (n + 1) :=
    ⟨column - utf16Length front - 1, by omega⟩
  have hnot : ¬ utf16Size c ≤ n + 1 := by omega
  rw [byteOfColumn?_append_add, byteOfColumn?, if_neg hnot]
  cases back <;> simp

/-- Beyond the end of a line there is nothing to be found. -/
theorem byteOfColumn?_of_lt (h : utf16Length line < column) : byteOfColumn? line column = none := by
  obtain ⟨n, rfl⟩ : ∃ n, column = utf16Length line + (n + 1) :=
    ⟨column - utf16Length line - 1, by omega⟩
  have hpast := byteOfColumn?_append_add line [] (n + 1)
  rwa [List.append_nil] at hpast

/-- The byte that a column inside a pair is rounded up to belongs to the next column. -/
theorem InsidePair.aligned (h : line.InsidePair column)
    (hbyte : byteOfColumn? line column = some byte) : line.Aligned byte (column + 1) := by
  obtain ⟨front, c, back, rfl, hlow, hhigh⟩ := h
  have hsize := utf16Size_le_two c
  rw [byteOfColumn?_inside hlow hhigh] at hbyte
  split at hbyte
  · cases hbyte
  · obtain rfl := Option.some.inj hbyte
    refine ⟨front ++ [c], back, by simp, rfl, ?_⟩
    rw [utf16Length_append, utf16Length_cons, utf16Length_nil]
    omega

/-! ### Forth and back -/

/-- **The two conversions of a line are inverse to each other** where a column belongs to a
boundary. Any other column that has a byte comes back rounded. -/
structure Inverse (line : Text) : Prop where
  /-- A byte offset has a column exactly if it is a boundary. -/
  isSome_iff : ∀ byte, (columnOfByte? line byte).isSome ↔ line.IsBoundary byte
  /-- The column counts the UTF-16 units of the bytes before the offset. -/
  eq_some_iff : ∀ byte column, columnOfByte? line byte = some column ↔ line.Aligned byte column
  /-- The column of an offset leads back to the offset. -/
  byte_of_column : ∀ byte column, columnOfByte? line byte = some column →
    byteOfColumn? line column = some byte
  /-- The offset of a column leads back to the column, or else to the next one. -/
  column_of_byte : ∀ column byte, byteOfColumn? line column = some byte →
    columnOfByte? line byte = some column ∨ columnOfByte? line byte = some (column + 1)
  /-- It leads to the next one exactly if the column is inside a surrogate pair. -/
  rounded_iff : ∀ column byte, byteOfColumn? line column = some byte →
    (columnOfByte? line byte = some (column + 1) ↔ line.InsidePair column)

/-- A column that has a byte is the column of that byte, or it is inside a pair that ends there. -/
theorem aligned_or_insidePair (h : byteOfColumn? line column = some byte) :
    line.Aligned byte column ∨ line.InsidePair column ∧ line.Aligned byte (column + 1) := by
  rcases column_cases line column with ⟨byte', haligned⟩ | hinside | hlt
  · rw [byteOfColumn?_of_aligned haligned, Option.some.injEq] at h
    exact Or.inl (h ▸ haligned)
  · exact Or.inr ⟨hinside, hinside.aligned h⟩
  · rw [byteOfColumn?_of_lt hlt] at h
    cases h

/-- **Bytes and columns lead back to each other**, for every line. -/
theorem inverse_columns (line : Text) : line.Inverse where
  isSome_iff byte := by
    rw [Option.isSome_iff_exists, ← exists_aligned_iff]
    exact exists_congr fun column => columnOfByte?_eq_some_iff
  eq_some_iff _ _ := columnOfByte?_eq_some_iff
  byte_of_column _ _ h := byteOfColumn?_of_aligned (columnOfByte?_eq_some_iff.1 h)
  column_of_byte column byte h := by
    rcases aligned_or_insidePair h with haligned | ⟨-, haligned⟩
    · exact Or.inl (columnOfByte?_eq_some_iff.2 haligned)
    · exact Or.inr (columnOfByte?_eq_some_iff.2 haligned)
  rounded_iff column byte h := by
    rcases aligned_or_insidePair h with haligned | ⟨hinside, haligned⟩
    · -- the byte has one column only, and it is not the next one
      rw [columnOfByte?_eq_some_iff.2 haligned]
      refine iff_of_false ?_ haligned.not_insidePair
      rw [Option.some.injEq]
      omega
    · exact iff_of_true (columnOfByte?_eq_some_iff.2 haligned) hinside

/-- The column inside the pair of `é😀x` goes to the byte behind the pair and comes back as the next
column. -/
theorem inverse_columns_inside :
    let line : Text := "é😀x".toList
    byteOfColumn? line 2 = some 6 ∧ columnOfByte? line 6 = some 3 ∧ line.InsidePair 2 := by
  intro line
  have hbyte : byteOfColumn? line 2 = some 6 := by decide +kernel
  have hcolumn : columnOfByte? line 6 = some 3 := by decide +kernel
  exact ⟨hbyte, hcolumn, ((inverse_columns line).rounded_iff 2 6 hbyte).1 hcolumn⟩

/-! ### Columns without a byte -/

/-- **A column has no byte exactly if it is beyond the end of the line, or inside the pair that ends
the line.** -/
theorem byteOfColumn?_eq_none_iff (line : Text) (column : Nat) :
    byteOfColumn? line column = none ↔
      utf16Length line < column ∨
        ∃ front c, line = front ++ [c] ∧ utf16Length front < column ∧ column < utf16Length line := by
  constructor
  · intro h
    rcases column_cases line column with ⟨byte, haligned⟩ | ⟨front, c, back, rfl, hlow, hhigh⟩ | hlt
    · rw [byteOfColumn?_of_aligned haligned] at h
      cases h
    · rw [byteOfColumn?_inside hlow hhigh] at h
      split at h
      · subst back
        refine Or.inr ⟨front, c, rfl, hlow, ?_⟩
        rwa [utf16Length_append, utf16Length_cons, utf16Length_nil]
      · cases h
    · exact Or.inl hlt
  · rintro (hlt | ⟨front, c, rfl, hlow, hhigh⟩)
    · exact byteOfColumn?_of_lt hlt
    · rw [utf16Length_append, utf16Length_cons, utf16Length_nil] at hhigh
      exact (byteOfColumn?_inside hlow hhigh []).trans (if_pos rfl)

/-- A line that is one pair: the column inside it is not beyond the end of the line, and yet it has
no byte. With a character behind the pair it has one. -/
theorem byteOfColumn?_misses_last :
    let line : Text := ['😀']
    byteOfColumn? line 1 = none ∧ ¬ utf16Length line < 1 ∧
      byteOfColumn? (line ++ ['x']) 1 = some (utf8Length line) := by
  decide +kernel

end Signpost.Text
