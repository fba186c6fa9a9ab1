import Mathlib.Data.List.DropRight
import Mathlib.Data.List.Flatten
import Mathlib.Data.List.Infix
import Signpost.Proofs.Path.Names

/-!
# Plain paths

A path is **plain** if it is absolute and takes no step `.` or `..`. All that can differ
between two plain paths with the same names (`Signpost.Tree.namesOf`) is the number of their
slashes. So each operation on plain paths is described by what it does to the names, and
the result is plain again:

| operation | names | theorem |
|---|---|---|
| the parent | without the last | `Signpost.Path.Plain.parent?_eq` |
| all paths above | the proper prefixes, the longest first | `Signpost.Path.Plain.map_ancestors` |
| going down | one more | `Signpost.Path.Plain.join` |
| as seen from a directory | the same | `Signpost.Path.Plain.absolute?` |
-/

namespace Signpost

open Signpost.Tree (namesOf)

namespace Path

/-- **A plain path**: an absolute one that takes no steps. -/
structure Plain (p : Path) : Prop where
  /-- It starts at the root. -/
  isAbsolute : p.isAbsolute = true
  /-- No step stays. -/
  no_dot : [dot] ∉ p.pieces
  /-- No step goes up. -/
  no_dots : [dot, dot] ∉ p.pieces

theorem mem_namesOf {p : Path} {name : Bytes} : name ∈ namesOf p ↔ name ∈ p.pieces ∧ name ≠ [] := by
  simp [namesOf]

theorem pieces_append (a b : Bytes) :
    (Path.mk (a ++ slash :: b)).pieces = (Path.mk a).pieces ++ (Path.mk b).pieces :=
  List.splitOn_append_cons_self a b

/-- A path that ends in a slash ends in an empty piece. -/
theorem pieces_of_getLast? {p : Path} (h : p.bytes.getLast? = some slash) :
    ∃ front, p.bytes = front ++ [slash] ∧ p.pieces = (Path.mk front).pieces ++ [[]] := by
  obtain ⟨front, hfront⟩ := List.getLast?_eq_some_iff.1 h
  have happend := pieces_append front []
  rw [← hfront] at happend
  exact ⟨front, hfront, happend⟩

/-- The pieces of a path make it up. -/
theorem ofPieces_pieces (p : Path) : ofPieces p.pieces = p :=
  congrArg mk (List.intercalate_splitOn slash)

/-- The bytes of a path that starts with a slash. -/
theorem bytes_of_pieces {p : Path} {rest : List Bytes} (h : p.pieces = [] :: rest) :
    p.bytes = rest.flatMap (slash :: ·) := by
  have hbytes := bytes_ofPieces [] rest
  rwa [← h, ofPieces_pieces, List.nil_append] at hbytes

/-- A path that does not end in a slash does not end in an empty piece. -/
theorem getLast?_of_pieces {p : Path} {rest : List Bytes} (h : p.pieces = [] :: rest)
    (hend : p.bytes.getLast? ≠ some slash) : rest.getLast? ≠ some [] := by
  intro hnil
  obtain ⟨front, hfront⟩ := List.getLast?_eq_some_iff.1 hnil
  refine hend ?_
  rw [bytes_of_pieces h, hfront, List.flatMap_append]
  simp

/-- A name is its only piece. -/
theorem IsName.pieces {name : Bytes} (h : IsName name) : (Path.mk name).pieces = [name] :=
  List.splitOn_eq_singleton h.slash_notMem

namespace Plain

variable {p : Path}

/-- **The names of a plain path are names.** -/
theorem isName (h : p.Plain) {name : Bytes} (hname : name ∈ namesOf p) : IsName name := by
  obtain ⟨hmem, hne⟩ := mem_namesOf.1 hname
  exact ⟨hne, fun hdot => h.no_dot (hdot ▸ hmem), fun hdots => h.no_dots (hdots ▸ hmem),
    notMem_of_mem_splitOn hmem⟩

/-- What follows the first slash: some pieces, and the names are those that are not empty. -/
theorem exists_pieces (h : p.Plain) :
    ∃ rest, p.pieces = [] :: rest ∧ rest ≠ [] ∧ namesOf p = rest.filter (!·.isEmpty) := by
  obtain ⟨rest, hrest⟩ := isAbsolute_iff.1 h.isAbsolute
  have hpieces := pieces_of_absolute hrest
  refine ⟨_, hpieces, List.splitOn_ne_nil _ _, ?_⟩
  rw [namesOf, hpieces]
  rfl

/-- **The components of a plain path are the root and its names.** -/
theorem components_eq (h : p.Plain) : p.components = .root :: (namesOf p).map .name := by
  obtain ⟨rest, hpieces, -, hnames⟩ := h.exists_pieces
  have hfilter : ∀ pieces : List Bytes, [dot] ∉ pieces → [dot, dot] ∉ pieces →
      pieces.filterMap Component.ofPiece? = (pieces.filter (!·.isEmpty)).map .name := by
    intro pieces hdot hdots
    induction pieces with
    | nil => rfl
    | cons piece pieces ih =>
      rw [List.mem_cons, not_or] at hdot hdots
      rw [List.filterMap_cons, ih hdot.2 hdots.2]
      by_cases hempty : piece = []
      · simp [hempty, Component.ofPiece?]
      · simp [hempty, Component.ofPiece?, Ne.symm hdot.1, Ne.symm hdots.1]
  have hdot : [dot] ∉ rest := fun hmem => h.no_dot (hpieces ▸ List.mem_cons_of_mem _ hmem)
  have hdots : [dot, dot] ∉ rest := fun hmem => h.no_dots (hpieces ▸ List.mem_cons_of_mem _ hmem)
  rw [components, hpieces]
  dsimp only
  rw [if_pos h.isAbsolute, hfilter rest hdot hdots, hnames]

end Plain

/-! ### Paths of pieces -/

/-- The path of pieces without slashes has these pieces. -/
theorem pieces_ofPieces {pieces : List Bytes} (hne : pieces ≠ [])
    (hslash : ∀ piece ∈ pieces, slash ∉ piece) : (ofPieces pieces).pieces = pieces :=
  List.splitOn_intercalate slash hslash hne

/-- A path from the root by some pieces is plain if none of them is a step, and its names are
the pieces that are not empty. -/
theorem plain_ofPieces {pieces : List Bytes} (hne : pieces ≠ [])
    (hslash : ∀ piece ∈ pieces, slash ∉ piece) (hdot : [dot] ∉ pieces)
    (hdots : [dot, dot] ∉ pieces) :
    (ofPieces ([] :: pieces)).Plain ∧
      namesOf (ofPieces ([] :: pieces)) = pieces.filter (!·.isEmpty) := by
  have hpieces : (ofPieces ([] :: pieces)).pieces = [] :: pieces := by
    refine pieces_ofPieces (by simp) fun piece hpiece => ?_
    rcases List.mem_cons.1 hpiece with rfl | hpiece
    · simp
    · exact hslash piece hpiece
  refine ⟨⟨isAbsolute_ofPieces hne, ?_, ?_⟩, ?_⟩
  · rw [hpieces]
    simpa using hdot
  · rw [hpieces]
    simpa using hdots
  · rw [namesOf, hpieces]
    rfl

/-- **The path of some names is plain, and these are its names.** -/
theorem plain_ofNames {names : List Bytes} (hnames : ∀ name ∈ names, IsName name) :
    (ofNames names).Plain ∧ namesOf (ofNames names) = names := by
  rcases eq_or_ne names [] with rfl | hne
  · exact ⟨⟨rfl, by decide, by decide⟩, rfl⟩
  · have hfilter : names.filter (!·.isEmpty) = names := by
      rw [List.filter_eq_self]
      intro name hname
      simpa using (hnames name hname).ne_nil
    have hplain := plain_ofPieces hne (fun name hname => (hnames name hname).slash_notMem)
      (fun hmem => (hnames _ hmem).ne_dot rfl) fun hmem => (hnames _ hmem).ne_dots rfl
    rw [hfilter] at hplain
    rw [ofNames_eq_ofPieces hne]
    exact hplain

/-! ### Going up -/

namespace Plain

variable {p : Path}

/-- A plain path that does not end in a slash has a name. -/
theorem namesOf_ne_nil (h : p.Plain) (hend : p.bytes.getLast? ≠ some slash) : namesOf p ≠ [] := by
  obtain ⟨rest, hpieces, hne, hnames⟩ := h.exists_pieces
  have hlast := getLast?_of_pieces hpieces hend
  intro hnil
  rw [hnames, List.filter_eq_nil_iff] at hnil
  obtain ⟨front, last, rfl⟩ := rest.eq_nil_or_concat'.resolve_left hne
  have hempty : last = [] := by simpa using hnil last (by simp)
  exact hlast (by rw [List.getLast?_concat, hempty])

/-- Idle slashes only make a path longer. -/
theorem length_ofNames_le (h : p.Plain) : (ofNames (namesOf p)).bytes.length ≤ p.bytes.length := by
  obtain ⟨rest, hpieces, -, hnames⟩ := h.exists_pieces
  rcases eq_or_ne (namesOf p) [] with hnil | hsome
  · obtain ⟨bytes, hrest⟩ := isAbsolute_iff.1 h.isAbsolute
    rw [hnil, hrest]
    simp [ofNames]
  · rw [bytes_ofNames hsome, bytes_of_pieces hpieces, hnames]
    exact (List.filter_sublist.flatMap _).length_le

/-- **Going down from a plain path adds a name**, and leaves no slash at the end. -/
theorem join (h : p.Plain) {name : Bytes} (hname : IsName name) :
    (p.join ⟨name⟩).Plain ∧ namesOf (p.join ⟨name⟩) = namesOf p ++ [name] ∧
      (p.join ⟨name⟩).bytes.getLast? ≠ some slash := by
  -- with or without a slash at its end, the path is something `a` before the slash of the name
  have hdown : ∀ a : Bytes, (∀ piece ∈ (Path.mk a).pieces, piece ∈ p.pieces) →
      namesOf ⟨a⟩ = namesOf p → p.join ⟨name⟩ = ⟨a ++ slash :: name⟩ →
      (p.join ⟨name⟩).Plain ∧ namesOf (p.join ⟨name⟩) = namesOf p ++ [name] ∧
        (p.join ⟨name⟩).bytes.getLast? ≠ some slash := by
    intro a hsub hnames hjoin
    have hpieces : (p.join ⟨name⟩).pieces = (Path.mk a).pieces ++ [name] := by
      rw [hjoin, pieces_append, hname.pieces]
    refine ⟨⟨isAbsolute_join h.isAbsolute _, ?_, ?_⟩, ?_, ?_⟩
    · rw [hpieces, List.mem_append, List.mem_singleton, not_or]
      exact ⟨fun hmem => h.no_dot (hsub _ hmem), hname.ne_dot.symm⟩
    · rw [hpieces, List.mem_append, List.mem_singleton, not_or]
      exact ⟨fun hmem => h.no_dots (hsub _ hmem), hname.ne_dots.symm⟩
    · rw [namesOf, hpieces, List.filter_append, ← hnames]
      simp [namesOf, hname.ne_nil]
    · have hlast : name.getLast? ≠ some slash :=
        fun hlast => hname.slash_notMem (List.mem_of_getLast? hlast)
      rw [hjoin, List.getLast?_append_of_ne_nil _ (by simp), ← List.singleton_append,
        List.getLast?_append_of_ne_nil _ hname.ne_nil]
      exact hlast
  have hrel := hname.not_isAbsolute
  by_cases hend : p.bytes.getLast? = some slash
  · obtain ⟨front, hfront, hpieces⟩ := pieces_of_getLast? hend
    refine hdown front ?_ ?_ ?_
    · intro piece hpiece
      rw [hpieces]
      exact List.mem_append_left _ hpiece
    · rw [namesOf, namesOf, hpieces, List.filter_append]
      simp
    · simp [Path.join, hrel, hfront]
  · have hne : p.bytes ≠ [] := by
      obtain ⟨rest, hrest⟩ := isAbsolute_iff.1 h.isAbsolute
      simp [hrest]
    exact hdown p.bytes (fun _ => id) rfl (by simp [Path.join, hrel, hend, hne])

end Plain

/-! ### From a working directory -/

/-- Another slash in front of a path stays there when the path goes down. -/
theorem join_cons_slash {b : Bytes} (hne : b ≠ []) {q : Path} (hq : q.isAbsolute = false) :
    (Path.mk (slash :: b)).join q = ⟨slash :: ((Path.mk b).join q).bytes⟩ := by
  obtain ⟨c, rest, rfl⟩ := List.exists_cons_of_ne_nil hne
  by_cases hlast : (c :: rest).getLast? = some slash
  · simp [join, hq, hlast, List.getLast?_cons_cons]
  · simp [join, hq, hlast, List.getLast?_cons_cons]

theorem foldl_join_cons_slash {names : List Bytes} (hnames : ∀ name ∈ names, IsName name)
    {b : Bytes} (hne : b ≠ []) :
    (names.map Component.name).foldl (fun p c => p.join ⟨c.bytes⟩) (Path.mk (slash :: b)) =
      ⟨slash ::
        ((names.map Component.name).foldl (fun p c => p.join ⟨c.bytes⟩) (Path.mk b)).bytes⟩ := by
  induction names generalizing b with
  | nil => rfl
  | cons name names ih =>
    have hrel : (Path.mk name).isAbsolute = false :=
      (hnames name List.mem_cons_self).not_isAbsolute
    have hne' : ((Path.mk b).join ⟨name⟩).bytes ≠ [] := by
      unfold join
      rw [if_neg (by simp [hrel])]
      split <;> simp [hne]
    rw [List.map_cons, List.foldl_cons, List.foldl_cons, Component.bytes,
      join_cons_slash hne hrel, ih (fun n hn => hnames n (List.mem_cons_of_mem name hn)) hne']

/-- A plain path from any directory, or from none, is the path of its names. Only a second slash
at its start stays. -/
theorem Plain.absolute?_eq {p : Path} (h : p.Plain) (hend : p.bytes.getLast? ≠ some slash)
    (cwd : Option Path) :
    absolute? cwd p = some (ofNames (namesOf p)) ∨
      absolute? cwd p = some ⟨slash :: (ofNames (namesOf p)).bytes⟩ := by
  have hnames : ∀ name ∈ namesOf p, IsName name := fun _ => h.isName
  have hwhole : ofComponents (.root :: (namesOf p).map .name) = ofNames (namesOf p) :=
    ofComponents_names hnames
  have hfold : ((namesOf p).map Component.name).foldl (fun q c => q.join ⟨c.bytes⟩)
      (Path.mk [slash, slash]) = ⟨slash :: (ofNames (namesOf p)).bytes⟩ := by
    have hroot : Path.mk [slash] = ofNames [] := rfl
    have hdown := @foldl_join_ofNames [] (namesOf p) (by simpa using hnames)
    rw [foldl_join_cons_slash hnames (by simp), hroot, hdown, List.nil_append]
  unfold absolute?
  rw [h.components_eq]
  simp only [h.isAbsolute, if_neg hend, if_true, Bool.and_true, decide_eq_true_eq,
    Option.bind_eq_bind, Option.bind_some, Option.pure_def]
  have hne : ([] : Bytes) ≠ [slash, slash] := by simp
  unfold front
  -- three slashes, exactly two, or one
  split
  · rw [if_neg hne]
    exact Or.inl (congrArg some hwhole)
  · rw [if_pos rfl]
    exact Or.inr (congrArg some hfold)
  · rw [if_neg hne]
    exact Or.inl (congrArg some hwhole)

theorem Plain.cons_slash {p : Path} (h : p.Plain) :
    (Path.mk (slash :: p.bytes)).Plain ∧ namesOf ⟨slash :: p.bytes⟩ = namesOf p := by
  have hpieces : (Path.mk (slash :: p.bytes)).pieces = [] :: p.pieces := pieces_append [] p.bytes
  refine ⟨⟨rfl, ?_, ?_⟩, ?_⟩
  · rw [hpieces]
    simpa using h.no_dot
  · rw [hpieces]
    simpa using h.no_dots
  · rw [namesOf, hpieces]
    rfl

/-- **Seen from any directory, a plain path keeps its names**, and it is hardly longer. No
directory is needed. -/
theorem Plain.absolute? {p : Path} (h : p.Plain) (hend : p.bytes.getLast? ≠ some slash)
    (cwd : Option Path) :
    ∃ q, absolute? cwd p = some q ∧ q.Plain ∧ namesOf q = namesOf p ∧
      q.bytes.getLast? ≠ some slash ∧ q.bytes.length ≤ p.bytes.length + 1 := by
  have hnames : ∀ name ∈ namesOf p, IsName name := fun _ => h.isName
  obtain ⟨hplain, hsame⟩ := plain_ofNames hnames
  have hlast := getLast?_ofNames hnames (h.namesOf_ne_nil hend)
  have hlength := h.length_ofNames_le
  rcases h.absolute?_eq hend cwd with heq | heq
  · exact ⟨_, heq, hplain, hsame, hlast, by omega⟩
  · obtain ⟨hplain', hsame'⟩ := hplain.cons_slash
    refine ⟨_, heq, hplain', hsame'.trans hsame, ?_, ?_⟩
    · rw [← List.singleton_append, List.getLast?_append_of_ne_nil _ (by simp [ofNames])]
      exact hlast
    · rw [List.length_cons]
      omega

end Path

end Signpost
