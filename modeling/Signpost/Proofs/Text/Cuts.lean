import Mathlib.Data.List.Basic
import Signpost.Text.Edit
import Signpost.Text.Utf8

/-!
# Cutting a text where it was put together

Every offset that matters in this library is the length of something: of what stands
before a token, before a line, before a cursor. So there is one fact to know about
cutting, in each of the units a text is measured in: **a text cut at the length of its
first part falls into its two parts**. An edit between two such cuts is a replacement
(`Signpost.Text.splice_append`).
-/

namespace Signpost

/-- Cutting at every separator gives one piece more than there are separators. -/
theorem length_splitOn {α : Type} [BEq α] [LawfulBEq α] (sep : α) (t : List α) :
    (t.splitOn sep).length = t.count sep + 1 := by
  induction t with
  | nil => rfl
  | cons c t ih =>
    rw [List.splitOn_cons_eq_if_modifyHead, List.count_cons]
    split
    · rw [List.length_cons, ih]
    · rw [List.length_modifyHead, ih]

namespace Text

/-! ### Bytes -/

theorem splitBytes?_zero (t : Text) : splitBytes? t 0 = some ([], t) := by
  cases t <;> rfl

/-- **A cut at the length of the first part succeeds.** -/
theorem splitBytes?_append (a b : Text) :
    splitBytes? (a ++ b) (utf8Length a) = some (a, b) := by
  induction a with
  | nil => exact splitBytes?_zero b
  | cons c a ih =>
    have hc := c.utf8Size_pos
    obtain ⟨n, hn⟩ : ∃ n, c.utf8Size + utf8Length a = n + 1 :=
      ⟨c.utf8Size + utf8Length a - 1, by omega⟩
    have hsub : n + 1 - c.utf8Size = utf8Length a := by omega
    rw [utf8Length_cons, hn, List.cons_append, splitBytes?, if_pos (by omega), hsub, ih]
    rfl

/-- The middle of three parts is what stands between the lengths in front of and behind
it. -/
theorem slice?_append (a b c : Text) :
    slice? (a ++ b ++ c) (utf8Length a) (utf8Length (a ++ b)) = some b := by
  have hle : ¬ utf8Length (a ++ b) < utf8Length a := by
    rw [utf8Length_append]
    omega
  rw [slice?, if_neg hle, splitBytes?_append]
  simp [splitBytes?_append]

theorem takeBytes_append (a b : Text) : takeBytes (a ++ b) (utf8Length a) = a := by
  induction a with
  | nil => cases b <;> rfl
  | cons c a ih =>
    have hc := c.utf8Size_pos
    obtain ⟨n, hn⟩ : ∃ n, c.utf8Size + utf8Length a = n + 1 :=
      ⟨c.utf8Size + utf8Length a - 1, by omega⟩
    have hsub : n + 1 - c.utf8Size = utf8Length a := by omega
    rw [utf8Length_cons, hn, List.cons_append, takeBytes, hsub, ih]

theorem dropBytes_append (a b : Text) : dropBytes (a ++ b) (utf8Length a) = b := by
  have h := takeBytes_append_dropBytes (a ++ b) (utf8Length a)
  rw [takeBytes_append] at h
  exact List.append_cancel_left h

/-- **An edit between two boundaries is a replacement**: of three parts it keeps the
outer ones. -/
theorem splice_append (a b c r : Text) :
    splice (a ++ b ++ c) (utf8Length a) (utf8Length (a ++ b)) r = a ++ r ++ c := by
  rw [splice, dropBytes_append, List.append_assoc a b c, takeBytes_append]

/-! ### Columns -/

theorem utf16Length_pos {t : Text} (h : t ≠ []) : 0 < utf16Length t := by
  cases t with
  | nil => exact absurd rfl h
  | cons c t =>
    have hc := utf16Size_pos c
    rw [utf16Length_cons]
    omega

/-- **The walk along a line passes what stands in front**: behind it, the rest of the line
decides. -/
theorem byteOfColumn?_append_add (a b : Text) (u : Nat) :
    byteOfColumn? (a ++ b) (utf16Length a + u) = (byteOfColumn? b u).map (utf8Length a + ·) := by
  induction a with
  | nil => simp
  | cons c a ih =>
    have hc := utf16Size_pos c
    obtain ⟨n, hn⟩ : ∃ n, utf16Size c + utf16Length a + u = n + 1 :=
      ⟨utf16Size c + utf16Length a + u - 1, by omega⟩
    have hsub : n + 1 - utf16Size c = utf16Length a + u := by omega
    rw [utf16Length_cons, hn, List.cons_append, byteOfColumn?, if_pos (by omega), hsub, ih,
      Option.map_map]
    exact congrArg (Option.map · _) (funext fun b => (Nat.add_assoc _ _ b).symm)

/-- **The column of a boundary leads back to its byte.** -/
theorem byteOfColumn?_append (a b : Text) :
    byteOfColumn? (a ++ b) (utf16Length a) = some (utf8Length a) := by
  have hpast := byteOfColumn?_append_add a b 0
  rwa [byteOfColumn?] at hpast

/-- **The byte of a boundary has a column**, and it is the one of the boundary. -/
theorem columnOfByte?_append (a b : Text) :
    columnOfByte? (a ++ b) (utf8Length a) = some (utf16Length a) := by
  induction a with
  | nil => cases b <;> rfl
  | cons c a ih =>
    have hc := c.utf8Size_pos
    obtain ⟨n, hn⟩ : ∃ n, c.utf8Size + utf8Length a = n + 1 :=
      ⟨c.utf8Size + utf8Length a - 1, by omega⟩
    have hsub : n + 1 - c.utf8Size = utf8Length a := by omega
    rw [utf8Length_cons, hn, List.cons_append, columnOfByte?, if_pos (by omega), hsub, ih]
    rfl

end Text

/-! ### Encoded texts -/

theorem Utf8.encode_append (t u : Text) : encode (t ++ u) = encode t ++ encode u :=
  List.flatMap_append

/-- The bytes of a text are as many as its length in bytes says. -/
theorem Utf8.length_encode (t : Text) : (encode t).length = utf8Length t := by
  induction t with
  | nil => rfl
  | cons c t ih =>
    rw [utf8Length_cons, ← ih, ← String.length_utf8EncodeChar c, ← List.length_append]
    rfl

end Signpost
