import Mathlib.Data.List.Basic
import Signpost.Disk.Tree
import Signpost.Path.Clean
import Signpost.Proofs.Text.Cuts

/-!
# Absolute paths by their names

Whatever the number of its slashes, an absolute path without detours is known by its names:
what stands between the slashes and is not empty (`Signpost.Tree.namesOf`).
`Signpost.Path.ofNames` is the one way to write such a path without an idle slash.

The statement to use from elsewhere is that cleaning an absolute path gives the path of some
names (`Signpost.Path.clean_eq_ofNames`), so it stays absolute.
-/

namespace Signpost.Path

/-! ### Names -/

/-- A name: it is not empty, it is no step, and no slash divides it. -/
structure IsName (name : Bytes) : Prop where
  /-- It is not empty. -/
  ne_nil : name ≠ []
  /-- It is not the step that stays. -/
  ne_dot : name ≠ [dot]
  /-- It is not the step up. -/
  ne_dots : name ≠ [dot, dot]
  /-- No slash divides it. -/
  slash_notMem : slash ∉ name

/-- The absolute path of some names. -/
def ofNames (names : List Bytes) : Path :=
  ⟨slash :: List.intercalate [slash] names⟩

theorem isAbsolute_iff {p : Path} : p.isAbsolute = true ↔ ∃ rest, p.bytes = slash :: rest := by
  rw [isAbsolute, beq_iff_eq]
  cases p.bytes with
  | nil => simp
  | cons b rest => simp

theorem isAbsolute_ofNames (names : List Bytes) : (ofNames names).isAbsolute = true := rfl

theorem IsName.not_isAbsolute {name : Bytes} (h : IsName name) :
    (Path.mk name).isAbsolute = false := by
  rw [Bool.eq_false_iff]
  intro habs
  obtain ⟨rest, hrest⟩ := isAbsolute_iff.1 habs
  have hbytes : name = slash :: rest := hrest
  exact h.slash_notMem (hbytes ▸ List.mem_cons_self)

theorem intercalate_concat {α : Type} (sep : List α) {names : List (List α)} (hne : names ≠ [])
    (name : List α) :
    List.intercalate sep (names ++ [name]) = List.intercalate sep names ++ sep ++ name := by
  induction names with
  | nil => exact absurd rfl hne
  | cons first names ih =>
    cases names with
    | nil => simp
    | cons second names =>
      have hrest := ih (by simp)
      rw [List.cons_append, List.cons_append, List.intercalate_cons_cons, ← List.cons_append,
        hrest, List.intercalate_cons_cons]
      simp

theorem getLast?_intercalate {names : List Bytes} (hnames : ∀ name ∈ names, IsName name)
    (hne : names ≠ []) : (List.intercalate [slash] names).getLast? ≠ some slash := by
  obtain ⟨front, last, rfl⟩ := List.eq_nil_or_concat' names |>.resolve_left hne
  have hlast : IsName last := hnames last (by simp)
  have hend : last.getLast? ≠ some slash :=
    fun h => hlast.slash_notMem (List.mem_of_getLast? h)
  cases front with
  | nil => simpa [List.intercalate] using hend
  | cons first front =>
    rw [intercalate_concat _ (by simp), List.getLast?_append_of_ne_nil _ hlast.ne_nil]
    exact hend

/-- **A path of names has no idle slash at its end.** -/
theorem getLast?_ofNames {names : List Bytes} (hnames : ∀ name ∈ names, IsName name)
    (hne : names ≠ []) : (ofNames names).bytes.getLast? ≠ some slash := by
  have hinner : List.intercalate [slash] names ≠ [] := by
    obtain ⟨first, rest, rfl⟩ := List.exists_cons_of_ne_nil hne
    have hfirst := (hnames first (by simp)).ne_nil
    cases rest <;> simp [List.intercalate, hfirst]
  rw [ofNames, ← List.singleton_append, List.getLast?_append_of_ne_nil _ hinner]
  exact getLast?_intercalate hnames hne

/-- Going down from a path of names adds a name. -/
theorem join_ofNames {names : List Bytes} (hnames : ∀ name ∈ names, IsName name) {name : Bytes}
    (h : IsName name) : (ofNames names).join ⟨name⟩ = ofNames (names ++ [name]) := by
  have hrel := h.not_isAbsolute
  cases names with
  | nil => simp [join, hrel, ofNames, List.intercalate]
  | cons first rest =>
    have hlast := getLast?_ofNames hnames (by simp)
    have hne : (ofNames (first :: rest)).bytes ≠ [] := by simp [ofNames]
    rw [join, if_neg (by simp [hrel]), if_neg (by simp [hne, hlast]), ofNames, ofNames,
      intercalate_concat _ (by simp)]
    simp

/-- Going down by some names adds them all. -/
theorem foldl_join_ofNames {before more : List Bytes}
    (hnames : ∀ name ∈ before ++ more, IsName name) :
    (more.map Component.name).foldl (fun p c => p.join ⟨c.bytes⟩) (ofNames before) =
      ofNames (before ++ more) := by
  induction more generalizing before with
  | nil => simp
  | cons name more ih =>
    have hbefore : ∀ n ∈ before, IsName n := fun n hn => hnames n (by simp [hn])
    have hjoin := join_ofNames hbefore (hnames name (by simp))
    rw [List.map_cons, List.foldl_cons, Component.bytes, hjoin, ih (by simpa using hnames)]
    simp

/-- The path of the root and some names is the path of these names. -/
theorem ofComponents_names {names : List Bytes} (hnames : ∀ name ∈ names, IsName name) :
    ofComponents (.root :: names.map .name) = ofNames names := by
  have hroot : (Path.mk []).join ⟨Component.root.bytes⟩ = ofNames [] := rfl
  rw [ofComponents, List.foldl_cons, hroot]
  simpa using @foldl_join_ofNames [] names (by simpa using hnames)

/-- What is put between lists comes before each of them but the first. -/
theorem intercalate_cons_eq_append {α : Type} (x : α) (first : List α) (rest : List (List α)) :
    List.intercalate [x] (first :: rest) = first ++ rest.flatMap (x :: ·) := by
  induction rest generalizing first with
  | nil => simp
  | cons second rest ih =>
    rw [List.intercalate_cons_cons, ih]
    simp

/-- A path has a slash before each of its pieces but the first. -/
theorem bytes_ofPieces (first : Bytes) (rest : List Bytes) :
    (ofPieces (first :: rest)).bytes = first ++ rest.flatMap (slash :: ·) :=
  intercalate_cons_eq_append slash first rest

theorem ofNames_eq_ofPieces {names : List Bytes} (hne : names ≠ []) :
    ofNames names = ofPieces ([] :: names) := by
  obtain ⟨first, rest, rfl⟩ := List.exists_cons_of_ne_nil hne
  simp [ofNames, ofPieces]

/-- A path of names has a slash before each of them. -/
theorem bytes_ofNames {names : List Bytes} (hne : names ≠ []) :
    (ofNames names).bytes = names.flatMap (slash :: ·) := by
  rw [ofNames_eq_ofPieces hne, bytes_ofPieces, List.nil_append]

/-! ### Pieces and components -/

theorem pieces_of_absolute {p : Path} {rest : Bytes} (h : p.bytes = slash :: rest) :
    p.pieces = [] :: rest.splitOn slash := by
  rw [pieces, h]
  exact List.splitOn_append_cons_self [] rest

theorem notMem_of_mem_splitOn {piece rest : Bytes} (h : piece ∈ rest.splitOn slash) :
    slash ∉ piece := by
  induction rest generalizing piece with
  | nil =>
    obtain rfl : piece = [] := by simpa using h
    simp
  | cons b rest ih =>
    rw [List.splitOn_cons_eq_if_modifyHead] at h
    by_cases hb : b = slash
    · rcases List.mem_cons.1 (by simpa [hb] using h) with rfl | h
      · simp
      · exact ih h
    · rcases hsplit : rest.splitOn slash with _ | ⟨first, more⟩
      · exact absurd hsplit (List.splitOn_ne_nil _ _)
      · rcases List.mem_cons.1 (by simpa [hb, hsplit] using h) with rfl | h
        · simp [Ne.symm hb, ih (hsplit ▸ List.mem_cons_self)]
        · exact ih (hsplit ▸ List.mem_cons_of_mem _ h)

/-- What stands between two slashes is a name, a step up, or nothing that matters. -/
theorem ofPiece?_eq_some {piece : Bytes} {c : Component} (hslash : slash ∉ piece)
    (h : Component.ofPiece? piece = some c) :
    c = .parent ∨ ∃ name, IsName name ∧ c = .name name := by
  unfold Component.ofPiece? at h
  split at h
  · cases h
  · split at h
    · cases h
    · split at h
      · exact Or.inl (Option.some.inj h).symm
      · rename_i h₁ h₂ h₃
        exact Or.inr ⟨piece, ⟨h₁, h₂, h₃, hslash⟩, (Option.some.inj h).symm⟩

theorem components_of_absolute {p : Path} {rest : Bytes} (h : p.bytes = slash :: rest) :
    p.components = .root :: (rest.splitOn slash).filterMap Component.ofPiece? := by
  have habs : p.isAbsolute = true := isAbsolute_iff.2 ⟨rest, h⟩
  simp [components, pieces_of_absolute h, habs]

/-! ### Cleaning -/

/-- The components of a clean absolute path so far, the last one first. -/
def doneNames (names : List Bytes) : List Component :=
  (Component.root :: names.map .name).reverse

theorem cleanStep_parent (names : List Bytes) :
    cleanStep (doneNames names) .parent = doneNames names.dropLast := by
  rcases names.eq_nil_or_concat' with rfl | ⟨front, last, rfl⟩
  · rfl
  · simp [doneNames, cleanStep]

theorem cleanStep_name (names : List Bytes) (name : Bytes) :
    cleanStep (doneNames names) (.name name) = doneNames (names ++ [name]) := by
  simp [doneNames, cleanStep]

/-- Cleaning what follows the root leaves names. -/
theorem foldl_cleanStep {steps : List Component}
    (hsteps : ∀ c ∈ steps, c = .parent ∨ ∃ name, IsName name ∧ c = .name name)
    {names : List Bytes} (hnames : ∀ name ∈ names, IsName name) :
    ∃ names', (∀ name ∈ names', IsName name) ∧
      steps.foldl cleanStep (doneNames names) = doneNames names' := by
  -- the names so far are the invariant: a step up drops the last, a name is added
  induction steps generalizing names with
  | nil => exact ⟨names, hnames, rfl⟩
  | cons c steps ih =>
    have hrest : ∀ d ∈ steps, d = .parent ∨ ∃ name, IsName name ∧ d = .name name :=
      fun d hd => hsteps d (by simp [hd])
    rw [List.foldl_cons]
    rcases hsteps c (by simp) with rfl | ⟨name, hname, rfl⟩
    · rw [cleanStep_parent]
      exact ih hrest fun n hn => hnames n (List.dropLast_subset names hn)
    · rw [cleanStep_name]
      refine ih hrest fun n hn => ?_
      rcases List.mem_append.1 hn with hn | hn
      · exact hnames n hn
      · exact List.mem_singleton.1 hn ▸ hname

/-- **Cleaning an absolute path gives the path of some names.** -/
theorem clean_eq_ofNames {p : Path} (h : p.isAbsolute = true) :
    ∃ names, (∀ name ∈ names, IsName name) ∧ p.clean = ofNames names := by
  obtain ⟨rest, hrest⟩ := isAbsolute_iff.1 h
  have hsteps : ∀ c ∈ (rest.splitOn slash).filterMap Component.ofPiece?,
      c = .parent ∨ ∃ name, IsName name ∧ c = .name name := by
    intro c hc
    obtain ⟨piece, hpiece, hsome⟩ := List.mem_filterMap.1 hc
    exact ofPiece?_eq_some (notMem_of_mem_splitOn hpiece) hsome
  have hnone : ∀ name ∈ ([] : List Bytes), IsName name := by simp
  obtain ⟨names, hnames, hfold⟩ := foldl_cleanStep hsteps hnone
  refine ⟨names, hnames, ?_⟩
  have hroot : cleanStep [] .root = doneNames [] := rfl
  have hcomponents : cleanComponents p.components = .root :: names.map .name := by
    rw [cleanComponents, components_of_absolute hrest, List.foldl_cons, hroot, hfold, doneNames,
      List.reverse_reverse]
  rw [clean, hcomponents]
  exact ofComponents_names hnames

/-! ### Absolute paths stay absolute -/

theorem isAbsolute_clean {p : Path} (h : p.isAbsolute = true) : p.clean.isAbsolute = true := by
  obtain ⟨names, -, hclean⟩ := clean_eq_ofNames h
  rw [hclean, isAbsolute_ofNames]

theorem isAbsolute_join {p : Path} (h : p.isAbsolute = true) (q : Path) :
    (p.join q).isAbsolute = true := by
  obtain ⟨rest, hrest⟩ := isAbsolute_iff.1 h
  unfold join
  split
  · assumption
  · split <;> simp [isAbsolute, hrest]

/-- The path of pieces of which the first is empty and not the only one starts at the
root. -/
theorem isAbsolute_ofPieces {pieces : List Bytes} (hne : pieces ≠ []) :
    (ofPieces ([] :: pieces)).isAbsolute = true := by
  obtain ⟨first, rest, rfl⟩ := List.exists_cons_of_ne_nil hne
  refine isAbsolute_iff.2 ⟨List.intercalate [slash] (first :: rest), ?_⟩
  simp [ofPieces]

theorem isAbsolute_parent? {p q : Path} (h : p.isAbsolute = true) (hq : p.parent? = some q) :
    q.isAbsolute = true := by
  obtain ⟨rest, hrest⟩ := isAbsolute_iff.1 h
  unfold parent? at hq
  rw [pieces_of_absolute hrest] at hq
  dsimp only at hq
  split at hq
  · simp [h] at hq
  · split at hq
    · obtain rfl := Option.some.inj hq
      rfl
    · rename_i hroot
      obtain rfl := Option.some.inj hq
      refine isAbsolute_ofPieces fun habove => ?_
      simp [habove, h] at hroot

end Signpost.Path
