import Signpost.Document.Basic
import Signpost.Proofs.Text.Fronts

/-!
# Either kind of line ending will do

Some editors end a line with a line feed, others with a carriage return and a line feed.
`Signpost.Text.addReturns` turns the one kind of text into the other, and the two behave alike:
resolution finds the same in both, and changes that are told by the same positions keep them
together (`Signpost.Text.alike_addReturns`).

The reason is that the carriage return is behind everything that a position can point at. The
two texts have the same lines (`Signpost.Text.lineAt?_addReturns`), and what stands in front of
a position of the one is, with its carriage returns, what stands in front of it in the other
(`Signpost.Text.front_addReturns`). The second fact is about every position: one beyond the end
of its line stops short of the terminator in both texts, and one beyond the last line is behind
everything in both.
-/

namespace Signpost

namespace Text

/-- A text with a carriage return before each line feed. -/
def addReturns (t : Text) : Text :=
  t.flatMap fun c => if c = '\n' then ['\r', '\n'] else [c]

@[simp] theorem addReturns_nil : addReturns [] = [] := rfl

@[simp] theorem addReturns_append (a b : Text) :
    addReturns (a ++ b) = addReturns a ++ addReturns b :=
  List.flatMap_append

theorem addReturns_feed (t : Text) : addReturns ('\n' :: t) = '\r' :: '\n' :: addReturns t := rfl

theorem addReturns_of_notMem {t : Text} (h : '\n' ∉ t) : addReturns t = t := by
  induction t with
  | nil => rfl
  | cons c t ih =>
    obtain ⟨hc, ht⟩ := not_or.1 (fun hmem => h (List.mem_cons.2 hmem))
    rw [addReturns, List.flatMap_cons, if_neg (Ne.symm hc), ← addReturns, ih ht]
    rfl

theorem dropCarriageReturn_of_notMem {t : Text} (h : '\r' ∉ t) : dropCarriageReturn t = t :=
  dropCarriageReturn_of_ne fun hlast => h (List.mem_of_getLast? hlast)

/-- The number of lines stays. -/
theorem count_addReturns (t : Text) : (addReturns t).count '\n' = t.count '\n' := by
  induction t with
  | nil => rfl
  | cons c t ih =>
    rw [addReturns, List.flatMap_cons, List.count_append, ← addReturns, ih]
    by_cases hc : c = '\n'
    · rw [if_pos hc, hc, List.count_cons_self, Nat.add_comm]
      rfl
    · rw [if_neg hc, List.count_cons_of_ne hc, List.count_cons_of_ne hc, List.count_nil,
        Nat.zero_add]

theorem Closed.addReturns {t : Text} (h : Closed t) : Closed t.addReturns := by
  rcases h with rfl | ⟨front, rfl⟩
  · exact closed_nil
  · rw [addReturns_append]
    exact Or.inr ⟨front.addReturns ++ ['\r'], by simp [addReturns_feed]⟩

/-- **The picture around a line stays**: whole lines before it, the line, and what leaves it.
The line has a terminator more or less, and is found as it was. -/
theorem exists_row_addReturns (before : Text) {line after : Text} (hl : '\n' ∉ line)
    (hr : '\r' ∉ line) (ha : Breaks after) :
    ∃ line' after', addReturns (before ++ line ++ after) = before.addReturns ++ line' ++ after' ∧
      '\n' ∉ line' ∧ Breaks after' ∧ dropCarriageReturn line' = line := by
  rw [addReturns_append, addReturns_append, addReturns_of_notMem hl]
  rcases ha with rfl | ⟨rest, rfl⟩
  -- the last line has no terminator, and gets none
  · exact ⟨line, [], rfl, hl, Or.inl rfl, dropCarriageReturn_of_notMem hr⟩
  · refine ⟨line ++ ['\r'], '\n' :: addReturns rest, ?_, ?_, breaks_cons _,
      dropCarriageReturn_snoc line⟩
    · rw [addReturns_feed]
      simp
    · simp [hl]

/-- **The lines are the same.** -/
theorem lineAt?_addReturns {t : Text} (ht : '\r' ∉ t) : t.addReturns.lineAt? = t.lineAt? := by
  funext n
  rcases Nat.lt_or_ge (t.count '\n') n with h | h
  · rw [lineAt?_eq_none h, lineAt?_eq_none (by rwa [count_addReturns])]
  · obtain ⟨before, line, after, rfl, hb, hl, ha, rfl⟩ := exists_row h
    have hr : '\r' ∉ line := fun hmem => ht (by simp [hmem])
    obtain ⟨line', after', htext, hl', ha', hsame⟩ := exists_row_addReturns before hl hr ha
    have hline := lineAt?_of_row hb.addReturns hl' ha'
    rw [count_addReturns] at hline
    rw [htext, hline, lineAt?_of_row hb hl ha, hsame, dropCarriageReturn_of_notMem hr]

/-- **What stands in front of a position is the same**, up to its carriage returns. -/
theorem front_addReturns {t : Text} (ht : '\r' ∉ t) (p : Position) :
    t.addReturns.front p = (t.front p).addReturns := by
  rcases Nat.lt_or_ge (t.count '\n') p.line with h | h
  · rw [front_of_missing h, front_of_missing (by rwa [count_addReturns])]
  · obtain ⟨n, column⟩ := p
    obtain ⟨before, line, after, rfl, hb, hl, ha, rfl⟩ := exists_row h
    have hr : '\r' ∉ line := fun hmem => ht (by simp [hmem])
    obtain ⟨line', after', htext, hl', ha', hsame⟩ := exists_row_addReturns before hl hr ha
    have hfront := front_of_row hb.addReturns hl' ha' column
    rw [count_addReturns] at hfront
    -- on the line itself nothing is added
    have hpart : '\n' ∉ takeColumns line column :=
      fun hmem => hl ((takeColumns_isPrefix line column).mem hmem)
    rw [htext, hfront, front_of_row hb hl ha, hsame, dropCarriageReturn_of_notMem hr,
      addReturns_append, addReturns_of_notMem hpart]

end Text

/-! ### Changes -/

namespace Change

/-- The same change of a text with carriage returns. -/
def addReturns (change : Change) : Change :=
  { change with text := change.text.addReturns }

/-- **One change keeps the two texts together.** -/
theorem apply_addReturns (change : Change) {t : Text} (ht : '\r' ∉ t) :
    change.addReturns.apply t.addReturns = (change.apply t).addReturns := by
  obtain ⟨_ | range, replacement⟩ := change
  · rfl
  · obtain ⟨a, middle, back, htext, hstart, hstop, happly⟩ := exists_apply t range
    have hstart' := Text.front_addReturns ht range.start
    have hstop' := Text.front_addReturns ht range.stop
    have htext' : t.addReturns = a.addReturns ++ middle.addReturns ++ back.addReturns := by
      rw [htext, Text.addReturns_append, Text.addReturns_append]
    rw [hstart] at hstart'
    rw [happly, Text.addReturns_append, Text.addReturns_append]
    -- the ends are in the same order in both texts
    rcases hstop with hstop | ⟨rfl, more, hmore⟩
    · rw [hstop, Text.addReturns_append] at hstop'
      exact apply_of_front_append hstart' hstop' htext'
    · rw [Text.addReturns_nil, List.append_nil] at htext'
      refine apply_of_front_isPrefix hstart' ?_ htext'
      rw [hstop', ← hmore, Text.addReturns_append]
      exact List.prefix_append _ _

/-- A change brings in no other carriage returns than those of its text. -/
theorem notMem_apply {change : Change} {t : Text} {c : Char} (ht : c ∉ t)
    (hchange : c ∉ change.text) : c ∉ change.apply t := by
  obtain ⟨_ | range, replacement⟩ := change
  · exact hchange
  · obtain ⟨a, middle, back, rfl, -, -, happly⟩ := exists_apply t range
    rw [happly]
    simp only [List.mem_append, not_or] at ht ⊢
    exact ⟨⟨ht.1.1, hchange⟩, ht.2⟩

/-- **Any number of changes keep the two texts together.** -/
theorem applyAll_addReturns {changes : List Change} {t : Text} (ht : '\r' ∉ t)
    (hchanges : ∀ change ∈ changes, '\r' ∉ change.text) :
    applyAll (changes.map addReturns) t.addReturns = (applyAll changes t).addReturns := by
  induction changes generalizing t with
  | nil => rfl
  | cons change changes ih =>
    have hone := hchanges change List.mem_cons_self
    have hmore : ∀ change ∈ changes, '\r' ∉ change.text :=
      fun other hother => hchanges other (List.mem_cons_of_mem change hother)
    have hrest := ih (notMem_apply ht hone) hmore
    simp only [applyAll] at hrest ⊢
    rw [List.map_cons, List.foldl_cons, List.foldl_cons, apply_addReturns change ht, hrest]

end Change

/-! ### Documents -/

/-- Texts with the same lines are read alike. -/
theorem Snapshot.source_congr {t u : Text} (h : t.lineAt? = u.lineAt?) (url : Url)
    (language : Option String) (version : Option Int) :
    (Snapshot.mk url (.ofText t language version)).source =
      (Snapshot.mk url (.ofText u language version)).source := by
  have hline : (Snapshot.mk url (.ofText t language version)).source.line =
      (Snapshot.mk url (.ofText u language version)).source.line := by
    rw [line_source, line_source]
    exact h
  rw [source, source]
  congr 1

namespace Text

/-- **Texts with either kind of line ending behave alike.** Resolution comes to the same in
both, whatever the grammar, the document, the position, the limit and the probe. And the same
changes, with the line endings of the text they are for, keep the two alike, wherever their
ranges begin and end. -/
theorem alike_addReturns {t : Text} (ht : '\r' ∉ t) :
    (∀ (grammar : Grammar) (url : Url) (language : Option String) (version : Option Int)
        (position : Position) (limit : Nat) (probe : Probe),
      resolve grammar (Snapshot.mk url (.ofText t.addReturns language version)).source position
          limit probe =
        resolve grammar (Snapshot.mk url (.ofText t language version)).source position
          limit probe) ∧
    ∀ changes : List Change, (∀ change ∈ changes, '\r' ∉ change.text) →
      Change.applyAll (changes.map Change.addReturns) t.addReturns =
        (Change.applyAll changes t).addReturns := by
  refine ⟨?_, fun changes => Change.applyAll_addReturns ht⟩
  intro grammar url language version position limit probe
  rw [Snapshot.source_congr (lineAt?_addReturns ht)]

/-- A script over three lines, and two changes of it: a range that ends before it starts, and
one from the middle of a surrogate pair to a line that does not exist. -/
theorem alike_addReturns_script :
    let t : Text := "'😀'\nnew Worker(\n'./b.ts')".toList
    let url : Url := ⟨Url.fileScheme, some .empty, "/a/c.js".toList, none, none⟩
    let probe : Probe := fun p => if p = Path.ofString "/a/b.ts" then .ok () else .error .notFound
    let changes : List Change := [⟨some ⟨⟨1, 40⟩, ⟨1, 3⟩⟩, "\n".toList⟩,
      ⟨some ⟨⟨0, 2⟩, ⟨9, 0⟩⟩, ";\n".toList⟩]
    ('\r' ∉ t ∧ ∀ change ∈ changes, '\r' ∉ change.text) ∧
      ((resolve .script (Snapshot.mk url (.ofText t.addReturns none none)).source ⟨2, 3⟩ 1
        probe).reference?.map Reference.origin) = some ⟨⟨2, 1⟩, ⟨2, 7⟩⟩ ∧
      Change.applyAll (changes.map Change.addReturns) t.addReturns = "'😀;\r\n".toList := by
  intro t url probe changes
  have ht : '\r' ∉ t := by decide
  have hchanges : ∀ change ∈ changes, '\r' ∉ change.text := by decide
  obtain ⟨hresolve, hedits⟩ := alike_addReturns ht
  refine ⟨⟨ht, hchanges⟩, ?_, ?_⟩
  · rw [hresolve]
    decide +kernel
  · rw [hedits changes hchanges]
    decide +kernel

end Text

end Signpost
