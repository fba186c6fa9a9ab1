import Signpost.Proofs.Resolve.Target
import Signpost.Proofs.Url.File

/-!
# One URL of a file among many

A file has many URLs, since every byte of a name may be escaped and need not be. Only one of them
is written for its path, so to go from a URL to a path and back leads to another URL as a rule. It
leads back to **the same URL exactly if that is canonical** (`Signpost.Url.IsCanonical`,
`Signpost.Url.ofPath?_eq_some_iff_isCanonical`): a file URL without a host, a query or a fragment,
in which each segment is written as its name would be.

What a path has to say about its URL are its **steps** (`Signpost.Path.steps`), the pieces that
are neither empty nor a dot. A path and its URL have the same ones, and slashes at the end, which
a drive letter may get, are none.
-/

namespace Signpost

namespace Path

/-! ### Steps -/

/-- **The steps of a path**: its pieces, without the idle ones. -/
def steps (p : Path) : List Bytes :=
  p.pieces.filter (!isIdle ·)

/-- What can be a step of a path. -/
structure IsStep (step : Bytes) : Prop where
  /-- It is neither empty nor a dot. -/
  busy : isIdle step = false
  /-- No slash divides it. -/
  slash_notMem : slash ∉ step

instance (step : Bytes) : Decidable (IsStep step) :=
  decidable_of_iff (isIdle step = false ∧ slash ∉ step) ⟨fun h => ⟨h.1, h.2⟩, fun h => ⟨h.1, h.2⟩⟩

theorem isStep_of_mem_steps {p : Path} {step : Bytes} (h : step ∈ p.steps) : IsStep step := by
  obtain ⟨hmem, hbusy⟩ := List.mem_filter.1 h
  exact ⟨by simpa using hbusy, notMem_of_mem_splitOn hmem⟩

/-- The components of an absolute path are the root and its steps. -/
theorem map_bytes_components {p : Path} (h : p.isAbsolute = true) :
    (p.components.drop 1).map Component.bytes = p.steps := by
  have hpieces : ∀ pieces : List Bytes,
      (pieces.filterMap Component.ofPiece?).map Component.bytes = pieces.filter (!isIdle ·) := by
    intro pieces
    induction pieces with
    | nil => rfl
    | cons piece pieces ih =>
      by_cases hidle : piece = [] ∨ piece = [dot]
      · rcases hidle with rfl | rfl
        · simpa [Component.ofPiece?, isIdle] using ih
        · simpa [Component.ofPiece?, isIdle] using ih
      · rw [not_or] at hidle
        by_cases hparent : piece = [dot, dot]
        · simpa [hparent, Component.ofPiece?, Component.bytes, isIdle] using ih
        · simpa [hidle, hparent, Component.ofPiece?, Component.bytes, isIdle] using ih
  obtain ⟨rest, hrest⟩ := isAbsolute_iff.1 h
  rw [components_of_absolute hrest, List.drop_one, List.tail_cons, hpieces, steps,
    pieces_of_absolute hrest]
  rfl

/-- A slash at the end is no step. -/
theorem steps_append_slash (bytes : Bytes) : (mk (bytes ++ [slash])).steps = (mk bytes).steps := by
  have hempty : (mk []).pieces = [[]] := rfl
  rw [steps, pieces_append, hempty, List.filter_append, steps]
  simp [isIdle]

theorem steps_closeDrive (bytes : Bytes) :
    (mk (Url.closeDrive bytes)).steps = (mk bytes).steps := by
  rcases Url.closeDrive_eq bytes with hclose | hclose
  · rw [hclose]
  · rw [hclose, steps_append_slash]

theorem steps_ofNames {names : List Bytes} (h : ∀ name ∈ names, IsStep name) :
    (ofNames names).steps = names := by
  rcases eq_or_ne names [] with rfl | hne
  · rfl
  have hslash : ∀ piece ∈ [] :: names, slash ∉ piece := by
    intro piece hpiece
    rcases List.mem_cons.1 hpiece with rfl | hpiece
    · simp
    · exact (h piece hpiece).slash_notMem
  have hall : names.filter (!isIdle ·) = names := by
    rw [List.filter_eq_self]
    intro name hname
    simpa using (h name hname).busy
  rw [ofNames_eq_ofPieces hne, steps, pieces_ofPieces (by simp) hslash, List.filter_cons, hall]
  rfl

end Path

namespace Url

open Percent (segmentOf)

/-- **The URL of an absolute path is that of its steps.** -/
theorem ofPath?_of_absolute {p : Path} (h : p.isAbsolute = true) :
    ofPath? p = some (ofNames p.steps) := by
  rw [ofPath?, if_pos h, Path.map_bytes_components h, ofNames, segmentsOf]
  split
  · rename_i hnil
    rw [hnil]
    rfl
  · rfl

/-! ### Canonical URLs -/

/-- **A segment as it is written for a name**: each byte is escaped if and only if it has to be,
and the name is a step. -/
structure IsWritten (segment : Text) : Prop where
  /-- Its name is written like this. -/
  written : segmentOf (Percent.decode segment) = segment
  /-- Its name is a step. -/
  step : Path.IsStep (Percent.decode segment)

instance (segment : Text) : Decidable (IsWritten segment) :=
  decidable_of_iff
    (segmentOf (Percent.decode segment) = segment ∧ Path.IsStep (Percent.decode segment))
    ⟨fun h => ⟨h.1, h.2⟩, fun h => ⟨h.1, h.2⟩⟩

/-- **A URL as it is written for a path.** -/
structure IsCanonical (u : Url) : Prop where
  /-- It is a file URL. -/
  scheme_eq : u.scheme = fileScheme
  /-- It has no host. -/
  authority_eq : u.authority = some .empty
  /-- It has no query. -/
  query_eq : u.query = none
  /-- It has no fragment. -/
  fragment_eq : u.fragment = none
  /-- It is the root, or all its segments are written for names. -/
  segments : u.path = ['/'] ∨
    ∃ segments, u.segments? = some segments ∧ ∀ segment ∈ segments, IsWritten segment

theorem isCanonical_ofNames {names : List Bytes} (h : ∀ name ∈ names, Path.IsStep name) :
    (ofNames names).IsCanonical := by
  refine ⟨rfl, rfl, rfl, rfl, ?_⟩
  rcases eq_or_ne names [] with rfl | hne
  · exact Or.inl rfl
  · refine Or.inr ⟨_, segments?_ofNames names, fun segment hsegment => ?_⟩
    rw [segmentsOf, if_neg hne] at hsegment
    obtain ⟨name, hname, rfl⟩ := List.mem_map.1 hsegment
    exact ⟨by rw [Percent.decode_segmentOf], by rw [Percent.decode_segmentOf]; exact h name hname⟩

theorem IsCanonical.exists_names {u : Url} (h : u.IsCanonical) :
    ∃ names, (∀ name ∈ names, Path.IsStep name) ∧ u = ofNames names := by
  obtain ⟨scheme, authority, path, query, fragment⟩ := u
  obtain ⟨rfl, rfl, rfl, rfl, hpath⟩ := h
  rcases hpath with rfl | ⟨segments, hsegments, hwritten⟩
  · exact ⟨[], by simp, rfl⟩
  -- the names are what the segments stand for
  refine ⟨segments.map Percent.decode, ?_, ?_⟩
  · intro name hname
    obtain ⟨segment, hsegment, rfl⟩ := List.mem_map.1 hname
    exact (hwritten segment hsegment).step
  · unfold segments? at hsegments
    split at hsegments
    · rename_i rest hrest
      obtain rfl := Option.some.inj hsegments
      have hne : (rest.splitOn '/').map Percent.decode ≠ [] := by simp
      have hback : ((rest.splitOn '/').map Percent.decode).map segmentOf = rest.splitOn '/' := by
        rw [List.map_map]
        exact (List.map_congr_left fun s hs => (hwritten s hs).written).trans (List.map_id _)
      rw [ofNames, segmentsOf, if_neg hne, hback, List.intercalate_splitOn]
      exact congrArg (fun path => Url.mk _ _ path _ _) hrest
    · cases hsegments

/-- **A URL comes back from its path exactly if it is canonical.** -/
theorem ofPath?_eq_some_iff_isCanonical {u : Url} {p : Path} (h : u.toPath? = some p) :
    ofPath? p = some u ↔ u.IsCanonical := by
  rw [ofPath?_of_absolute (isAbsolute_toPath? h), Option.some.injEq]
  constructor
  · rintro rfl
    exact isCanonical_ofNames fun name => Path.isStep_of_mem_steps
  · intro hcanonical
    obtain ⟨names, hnames, rfl⟩ := hcanonical.exists_names
    rw [toPath?_ofNames, Option.some.injEq] at h
    rw [← h, Path.steps_closeDrive]
    exact congrArg ofNames (Path.steps_ofNames hnames)

end Url

end Signpost
