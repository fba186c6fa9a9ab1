import Mathlib.Data.List.Pairwise
import Signpost.Proofs.Text.Splices

/-!
# The lines of a text make up the text

A document is a list of offsets and a text, and every line is cut out of the text between two of the
offsets. That this never goes wrong is a property of the list: its entries are the lengths of the
pieces `before` that are made of whole lines (`Signpost.Text.exists_row_of_lineStarts`), so they are
boundaries, they grow, and a line feed stands in front of each but the first. A line therefore ends
one byte before the next one starts (`Signpost.Text.lineStop_of_row`), and what stands between is
exactly the piece between two line feeds.

`Signpost.Text.partitioned_lines` puts this together: the offsets divide the text, the lines are its
pieces without the carriage return that may end them, and the pieces with line feeds between them are
the text again.
-/

namespace Signpost.Text

/-! ### The offsets grow -/

theorem lt_of_mem_breaksFrom {offset start : Nat} {t : Text} (h : start ∈ breaksFrom offset t) :
    offset < start := by
  induction t generalizing offset with
  | nil => cases h
  | cons c t ih =>
    have hc := c.utf8Size_pos
    have hrest : start ∈ breaksFrom (offset + c.utf8Size) t → offset < start := by
      intro hmem
      have hlt := ih hmem
      omega
    rw [breaksFrom] at h
    split at h
    · rcases List.mem_cons.1 h with rfl | hmem
      · omega
      · exact hrest hmem
    · exact hrest h

theorem pairwise_breaksFrom (offset : Nat) (t : Text) :
    (breaksFrom offset t).Pairwise (· < ·) := by
  induction t generalizing offset with
  | nil => exact .nil
  | cons c t ih =>
    rw [breaksFrom]
    split
    · exact List.pairwise_cons.2 ⟨fun _ hmem => lt_of_mem_breaksFrom hmem, ih _⟩
    · exact ih _

/-- **Later lines start later.** -/
theorem pairwise_lineStarts (t : Text) : t.lineStarts.Pairwise (· < ·) :=
  List.pairwise_cons.2 ⟨fun _ hmem => lt_of_mem_breaksFrom hmem, pairwise_breaksFrom 0 t⟩

/-! ### The offsets are those of lines -/

theorem lt_length_lineStarts_iff {t : Text} {n : Nat} :
    n < t.lineStarts.length ↔ n ≤ t.count '\n' := by
  rw [length_lineStarts, Nat.lt_succ_iff]

/-- **An offset at which a line starts is the length of the whole lines before it.** -/
theorem exists_row_of_lineStarts {t : Text} {n start : Nat} (h : t.lineStarts[n]? = some start) :
    ∃ before line after, t = before ++ line ++ after ∧ Closed before ∧ '\n' ∉ line ∧
      Breaks after ∧ before.count '\n' = n ∧ utf8Length before = start := by
  obtain ⟨hn, -⟩ := List.getElem?_eq_some_iff.1 h
  obtain ⟨before, line, after, rfl, hb, hl, ha, rfl⟩ := exists_row (lt_length_lineStarts_iff.1 hn)
  rw [List.append_assoc, lineStarts_getElem?_count hb, Option.some.injEq] at h
  exact ⟨before, line, after, rfl, hb, hl, ha, rfl, h⟩

theorem isBoundary_of_mem_lineStarts {t : Text} {start : Nat} (h : start ∈ t.lineStarts) :
    t.IsBoundary start := by
  obtain ⟨n, hn⟩ := List.mem_iff_getElem?.1 h
  obtain ⟨before, line, after, rfl, -, -, -, -, hstart⟩ := exists_row_of_lineStarts hn
  exact ⟨before, line ++ after, List.append_assoc before line after, hstart⟩

theorem IsBoundary.le_length {t : Text} {n : Nat} (h : t.IsBoundary n) : n ≤ utf8Length t := by
  obtain ⟨front, back, rfl, rfl⟩ := h
  rw [utf8Length_append]
  omega

/-- **Where line `n` ends**, its line feed left out: one byte before the next line starts, or at the
end of the text. -/
def lineStop (t : Text) (n : Nat) : Nat :=
  match t.lineStarts[n + 1]? with
  | none => utf8Length t
  | some next => next - 1

/-- What ends a line is one byte before the next one, or it is the end of the text. -/
theorem lineStop_of_row (before : Text) {line after : Text} (hl : '\n' ∉ line) (ha : Breaks after) :
    lineStop (before ++ line ++ after) (before.count '\n') = utf8Length (before ++ line) := by
  have hnext := lineStarts_getElem?_succ before hl ha
  rcases ha with rfl | ⟨rest, rfl⟩
  · rw [if_pos rfl] at hnext
    rw [lineStop, hnext, List.append_nil]
  · rw [if_neg (List.cons_ne_nil _ _)] at hnext
    rw [lineStop, hnext]
    rfl

/-- **A line is cut out without fail**, and what is cut out is the piece between two line feeds. -/
theorem exists_slice?_eq {t : Text} {n start : Nat} (h : t.lineStarts[n]? = some start) :
    ∃ piece, slice? t start (t.lineStop n) = some piece ∧ (t.splitOn '\n')[n]? = some piece := by
  obtain ⟨before, line, after, rfl, hb, hl, ha, rfl, rfl⟩ := exists_row_of_lineStarts h
  refine ⟨line, ?_, splitOn_getElem?_of_row hb hl ha⟩
  rw [lineStop_of_row before hl ha]
  exact slice?_append before line after

/-! ### Lines and pieces -/

/-- **The lines of a text divide it**, and are found by offsets without fail. -/
structure Partitioned (t : Text) : Prop where
  /-- The first line starts where the text does. -/
  starts_head : t.lineStarts.head? = some 0
  /-- Later lines start later. -/
  starts_increasing : t.lineStarts.Pairwise (· < ·)
  /-- There is one line more than there are line feeds. -/
  length_starts : t.lineStarts.length = t.count '\n' + 1
  /-- A line starts between two characters of the text, or at one of its ends. -/
  starts_boundary : ∀ start ∈ t.lineStarts, t.IsBoundary start ∧ start ≤ utf8Length t
  /-- The byte before the start of a later line is a byte of the text. -/
  next_pos : ∀ n next, t.lineStarts[n + 1]? = some next → 0 < next
  /-- The text can be cut where a line starts and where it ends, which gives a piece. -/
  slice : ∀ n start, t.lineStarts[n]? = some start →
    ∃ piece, slice? t start (t.lineStop n) = some piece ∧ (t.splitOn '\n')[n]? = some piece
  /-- There is a line for each start and no other. -/
  isSome_iff : ∀ n, (line? t t.lineStarts n).isSome ↔ n < t.lineStarts.length
  /-- A line is a piece without the carriage return that may end it. -/
  line_eq : ∀ n, line? t t.lineStarts n = ((t.splitOn '\n')[n]?).map dropCarriageReturn
  /-- No line goes over a line feed. -/
  feed_notMem : ∀ n line, line? t t.lineStarts n = some line → '\n' ∉ line
  /-- The pieces with line feeds between them are the text. -/
  joined : ['\n'].intercalate (t.splitOn '\n') = t

/-- **Every text is divided into its lines.** -/
theorem partitioned_lines (t : Text) : t.Partitioned where
  starts_head := rfl
  starts_increasing := pairwise_lineStarts t
  length_starts := length_lineStarts t
  starts_boundary start h :=
    have hboundary := isBoundary_of_mem_lineStarts h
    ⟨hboundary, hboundary.le_length⟩
  next_pos n next h := by
    -- only the first line starts at the start of the text
    have hmem : next ∈ breaksFrom 0 t := List.mem_of_getElem? h
    exact lt_of_mem_breaksFrom hmem
  slice _ _ h := exists_slice?_eq h
  isSome_iff n := by
    rw [lt_length_lineStarts_iff]
    exact isSome_lineAt?_iff
  line_eq n := by
    have hrows := lineAt?_eq_rows t n
    rwa [rows, List.getElem?_map] at hrows
  feed_notMem _ _ h := notMem_of_lineAt? h
  joined := List.intercalate_splitOn '\n'

/-- Both line endings, a carriage return that stays, an empty line and a last line without an
ending. -/
example :
    let t : Text := "é\r\n\r\r\n\n😀\r".toList
    t.lineStarts = [0, 4, 7, 8] ∧
      t.lines = ["é".toList, "\r".toList, [], "😀".toList] := by
  decide +kernel

end Signpost.Text
