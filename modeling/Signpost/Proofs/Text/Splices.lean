import Signpost.Proofs.Text.Fronts

/-!
# Edits cut between characters

A text is cut at byte offsets, and a cut inside a character, beyond the end, or with the end before
the start would be refused. The offsets come from a client that may send any numbers at all.
Nevertheless none of this happens: **an offset that stands for a position is the length of what
stands in front of the position** (`Signpost.Text.offsetOrEnd_eq`), and that is always a piece of
the text. So each step of an edit is an exact splice of the bytes of the text as it is then
(`Signpost.Text.Splices`, `Signpost.Change.runs_applyAll`).

The end is taken for the start if it comes before it. This matters for reversed ranges only, because
a later position has more in front of it (`Signpost.Text.front_isPrefix_front`): on another line by
the line feeds, on the same line by the characters that begin before its column.
-/

namespace Signpost

namespace Text

/-! ### Boundaries -/

/-- **An offset between two characters** of a text, or at one of its ends. -/
def IsBoundary (t : Text) (n : Nat) : Prop :=
  ∃ front back, t = front ++ back ∧ utf8Length front = n

/-- **An exact splice**: of the bytes of a text those between two offsets are replaced, and the
offsets are ones at which the text can be cut. -/
structure Splices (t : Text) (start stop : Nat) (replacement result : Text) : Prop where
  /-- The offsets are in order. -/
  start_le_stop : start ≤ stop
  /-- They are offsets of the text. -/
  stop_le_length : stop ≤ utf8Length t
  /-- The first does not fall inside a character. -/
  start_isBoundary : t.IsBoundary start
  /-- Neither does the second. -/
  stop_isBoundary : t.IsBoundary stop
  /-- The bytes before the first and behind the second are kept. -/
  encode_eq : Utf8.encode result =
    (Utf8.encode t).take start ++ Utf8.encode replacement ++ (Utf8.encode t).drop stop

theorem encode_take (a b : Text) :
    (Utf8.encode (a ++ b)).take (utf8Length a) = Utf8.encode a := by
  rw [Utf8.encode_append, ← Utf8.length_encode, List.take_left]

theorem encode_drop (a b : Text) :
    (Utf8.encode (a ++ b)).drop (utf8Length a) = Utf8.encode b := by
  rw [Utf8.encode_append, ← Utf8.length_encode, List.drop_left]

/-- **To replace the middle of three parts is an exact splice.** -/
theorem splices_append (a middle back replacement : Text) :
    (a ++ middle ++ back).Splices (utf8Length a) (utf8Length (a ++ middle)) replacement
      (a ++ replacement ++ back) where
  start_le_stop := by
    rw [utf8Length_append]
    omega
  stop_le_length := by
    rw [utf8Length_append (a ++ middle)]
    omega
  start_isBoundary := ⟨a, middle ++ back, List.append_assoc a middle back, rfl⟩
  stop_isBoundary := ⟨a ++ middle, back, rfl, rfl⟩
  encode_eq := by
    have htake := encode_take a (middle ++ back)
    rw [← List.append_assoc] at htake
    rw [htake, encode_drop, Utf8.encode_append, Utf8.encode_append]

/-! ### Later positions -/

theorem takeColumns_isPrefix_takeColumns (line : Text) {u v : Nat} (h : u ≤ v) :
    takeColumns line u <+: takeColumns line v := by
  induction line generalizing u v with
  | nil => cases u <;> cases v <;> exact List.prefix_rfl
  | cons c line ih =>
    cases u with
    | zero => exact List.nil_prefix
    | succ u =>
      obtain ⟨v, rfl⟩ : ∃ w, v = w + 1 := ⟨v - 1, by omega⟩
      exact List.cons_prefix_cons.2 ⟨rfl, ih (by omega)⟩

/-- **A later position has more in front of it.** -/
theorem front_isPrefix_front (t : Text) {p q : Position} (h : p ≤ q) : t.front p <+: t.front q := by
  rcases Nat.lt_or_ge (t.count '\n') q.line with hmissing | hq
  · rw [front_of_missing hmissing]
    exact front_isPrefix t p
  rcases Position.le_iff.1 h with hlt | ⟨hline, hcolumn⟩
  · -- two pieces at the start of a text are comparable, and the line feeds tell which is longer
    have hp : p.line ≤ t.count '\n' := by omega
    rcases List.prefix_or_prefix_of_prefix (front_isPrefix t p) (front_isPrefix t q)
      with hpq | hqp
    · exact hpq
    · have hfeeds := hqp.sublist.count_le '\n'
      rw [count_front hp, count_front hq] at hfeeds
      omega
  · obtain ⟨n, column⟩ := p
    obtain ⟨n', column'⟩ := q
    obtain rfl : n = n' := hline
    obtain ⟨before, line, after, rfl, hb, hl, ha, rfl⟩ := exists_row hq
    rw [front_of_row hb hl ha, front_of_row hb hl ha]
    exact (List.prefix_append_right_inj before).2 (takeColumns_isPrefix_takeColumns _ hcolumn)

/-- **Offsets are in the order of positions.** -/
theorem offsetOrEnd_le (t : Text) {p q : Position} (h : p ≤ q) :
    t.offsetOrEnd p ≤ t.offsetOrEnd q := by
  obtain ⟨more, hmore⟩ := t.front_isPrefix_front h
  rw [offsetOrEnd_eq, offsetOrEnd_eq, ← hmore, utf8Length_append]
  omega

end Text

namespace Change

/-! ### Steps -/

/-- **The offsets of a range are lengths of pieces of the text**, whatever its positions are. -/
theorem exists_bounds_eq (range : Range) (t : Text) :
    ∃ a middle back, t = a ++ middle ++ back ∧
      bounds range t = (utf8Length a, utf8Length (a ++ middle)) := by
  obtain ⟨a, middle, back, ht, hstart, hstop, -⟩ := exists_apply t range
  refine ⟨a, middle, back, ht, ?_⟩
  rw [bounds, Text.offsetOrEnd_eq, Text.offsetOrEnd_eq, hstart]
  refine congrArg (Prod.mk _) ?_
  rcases hstop with hstop | ⟨rfl, more, hmore⟩
  · rw [hstop, utf8Length_append]
    omega
  · rw [List.append_nil, ← hmore, utf8Length_append]
    omega

/-- **A change of a range is an exact splice.** -/
theorem splices_apply (range : Range) (replacement t : Text) :
    t.Splices (bounds range t).1 (bounds range t).2 replacement
      (apply ⟨some range, replacement⟩ t) := by
  obtain ⟨a, middle, back, rfl, hbounds⟩ := exists_bounds_eq range t
  have happly : apply ⟨some range, replacement⟩ (a ++ middle ++ back) =
      a ++ replacement ++ back := by
    simp only [apply, hbounds]
    exact Text.splice_append a middle back replacement
  rw [hbounds, happly]
  exact Text.splices_append a middle back replacement

/-- A range in order keeps both its offsets. -/
theorem bounds_of_le {range : Range} (h : range.start ≤ range.stop) (t : Text) :
    bounds range t = (t.offsetOrEnd range.start, t.offsetOrEnd range.stop) := by
  rw [bounds, Nat.max_eq_left (t.offsetOrEnd_le h)]

/-! ### Runs -/

/-- **A run of changes** from one text to another. Each is carried out on the text that the ones
before it have left: it takes the place of that text, or is an exact splice of it. -/
inductive Runs : List Change → Text → Text → Prop
  /-- Nothing is left to change. -/
  | done (t : Text) : Runs [] t t
  /-- The whole text is replaced. -/
  | rewrite (t : Text) {text u : Text} {changes : List Change} (hrest : Runs changes text u) :
      Runs (⟨none, text⟩ :: changes) t u
  /-- A range of it is replaced. -/
  | splice {t next u replacement : Text} {range : Range} {changes : List Change}
      (hstep : t.Splices (bounds range t).1 (bounds range t).2 replacement next)
      (hrest : Runs changes next u) : Runs (⟨some range, replacement⟩ :: changes) t u

theorem runs_foldl (changes : List Change) (t : Text) : Runs changes t (applyAll changes t) := by
  induction changes generalizing t with
  | nil => exact .done t
  | cons change changes ih =>
    obtain ⟨_ | range, replacement⟩ := change
    · exact .rewrite t (ih replacement)
    · exact .splice (splices_apply range replacement t) (ih _)

/-- **Any list of changes is carried out by exact splices**, of which none can be refused. The end
of a range counts as it is, unless it comes before the start. -/
theorem runs_applyAll (changes : List Change) (t : Text) :
    Runs changes t (applyAll changes t) ∧
      ∀ (current : Text) (range : Range), range.start ≤ range.stop →
        bounds range current =
          (current.offsetOrEnd range.start, current.offsetOrEnd range.stop) :=
  ⟨runs_foldl changes t, fun current _ h => bounds_of_le h current⟩

/-- A range that begins in the middle of a surrogate pair and ends behind a carriage return, then
one that is reversed, and one that lies beyond the text. -/
theorem runs_applyAll_astray :
    let t : Text := "a😀b\r\nc".toList
    let range : Range := ⟨⟨0, 2⟩, ⟨0, 9⟩⟩
    Runs [⟨some range, ['-']⟩, ⟨some ⟨⟨1, 1⟩, ⟨0, 0⟩⟩, ['d']⟩, ⟨some ⟨⟨7, 0⟩, ⟨9, 9⟩⟩, ['e']⟩] t
        "a😀-\r\ncde".toList ∧
      range.start ≤ range.stop ∧ bounds range t = (5, 6) := by
  intro t range
  have hle : range.start ≤ range.stop := by decide
  obtain ⟨hruns, hbounds⟩ := runs_applyAll
    [⟨some range, ['-']⟩, ⟨some ⟨⟨1, 1⟩, ⟨0, 0⟩⟩, ['d']⟩, ⟨some ⟨⟨7, 0⟩, ⟨9, 9⟩⟩, ['e']⟩] t
  refine ⟨?_, hle, (hbounds t range hle).trans (by decide +kernel)⟩
  have happly : applyAll [⟨some range, ['-']⟩, ⟨some ⟨⟨1, 1⟩, ⟨0, 0⟩⟩, ['d']⟩,
      ⟨some ⟨⟨7, 0⟩, ⟨9, 9⟩⟩, ['e']⟩] t = "a😀-\r\ncde".toList := by decide +kernel
  rwa [happly] at hruns

end Change

end Signpost
