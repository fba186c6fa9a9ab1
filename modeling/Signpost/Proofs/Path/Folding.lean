import Signpost.Proofs.Path.Plain

/-!
# Cleaning a path is folding its components

Cleaning goes over the components of a path with a stack in its hand. A name is put on top, a step
up takes the name on top away, and where there is none – at the root, or above the start of a
relative path – nothing is taken. The stack is what a clean path is written from, and this file
takes it for **the meaning of a path** (`Signpost.Path.foldOn`). Two facts carry everything else:

* to go down from a directory is to go on with its stack (`Signpost.Path.foldOn_join`);
* what is written from a stack has that stack (`Signpost.Path.foldOn_clean`).

The second is the one that has to be argued, since a clean path is text again and could be read in
another way. It cannot, because a stack has one of two forms, names on the root or names on steps up
(`Signpost.Path.IsFolded`), and in both each component is read back as what it was.

So a clean path is cleaned already (`Signpost.Path.clean_clean`), and the last name of what is joined
to an absolute path is the last name of the result (`Signpost.Path.clean_join_of_fileName?`).
-/

namespace Signpost.Path

/-! ### Stacks -/

/-- The stack that the components of a path leave, when they are folded on top of another. -/
def foldOn (p : Path) (done : List Component) : List Component :=
  p.components.foldl cleanStep done

/-- The path that is written for a stack; `.` when it is empty. -/
def ofFolded (done : List Component) : Path :=
  if done = [] then ⟨[dot]⟩ else ofComponents done.reverse

/-- **A clean path is written from the stack.** -/
theorem clean_eq_ofFolded (p : Path) : p.clean = ofFolded (p.foldOn []) := by
  have hreverse : cleanComponents p.components = (p.foldOn []).reverse := rfl
  rw [clean, hreverse, ofFolded]
  split
  · rename_i hnil
    rw [if_pos (List.reverse_eq_nil_iff.1 hnil)]
  · rename_i hne
    rw [if_neg (fun hnil => hne (List.reverse_eq_nil_iff.2 hnil))]

theorem clean_congr {p q : Path} (h : p.foldOn [] = q.foldOn []) : p.clean = q.clean := by
  rw [clean_eq_ofFolded, clean_eq_ofFolded, h]

/-- Of the pieces of a path only those count that stand for a component. Apart from that, a path
that starts at the root puts the root on the stack. -/
theorem foldOn_eq (p : Path) (done : List Component) :
    p.foldOn done = (p.pieces.filterMap Component.ofPiece?).foldl cleanStep
      (if p.isAbsolute then .root :: done else done) := by
  by_cases habs : p.isAbsolute = true
  · obtain ⟨rest, hrest⟩ := isAbsolute_iff.1 habs
    rw [foldOn, components_of_absolute hrest, pieces_of_absolute hrest, if_pos habs]
    rfl
  · rcases hpieces : p.pieces with _ | ⟨first, rest⟩
    · exact absurd hpieces (List.splitOn_ne_nil _ _)
    · rw [foldOn, components, hpieces, if_neg habs]
      dsimp only
      rw [if_neg habs]
      -- a dot at the start is a component of its own, which does nothing
      split
      · rename_i hdot
        rw [hdot]
        rfl
      · rw [List.filterMap_cons]
        cases Component.ofPiece? first <;> rfl

theorem isAbsolute_append {a : Bytes} (ha : a ≠ []) (b : Bytes) :
    (mk (a ++ b)).isAbsolute = (mk a).isAbsolute := by
  rw [isAbsolute, isAbsolute, List.head?_append_of_ne_nil _ ha]

/-- **What stands behind a slash goes on with the stack of what stands before it.** -/
theorem foldOn_append_slash {a b : Bytes} (ha : a ≠ []) (hb : (mk b).isAbsolute = false)
    (done : List Component) :
    (mk (a ++ slash :: b)).foldOn done = (mk b).foldOn ((mk a).foldOn done) := by
  rw [foldOn_eq, foldOn_eq (mk b), foldOn_eq (mk a), pieces_append, List.filterMap_append,
    List.foldl_append, isAbsolute_append ha, hb]
  rfl

/-- **To go down from a directory is to go on with its stack.** -/
theorem foldOn_join (p : Path) {q : Path} (hq : q.isAbsolute = false) :
    (p.join q).foldOn [] = q.foldOn (p.foldOn []) := by
  obtain ⟨a⟩ := p
  obtain ⟨b⟩ := q
  rw [join, if_neg (by simp [hq])]
  by_cases hne : a = []
  · subst hne
    rfl
  by_cases hlast : a.getLast? = some slash
  · -- the slash is there already, and the empty piece behind it counts for nothing
    obtain ⟨front, hfront, hpieces⟩ := pieces_of_getLast? (p := ⟨a⟩) hlast
    have hfront' : a = front ++ [slash] := hfront
    have hjoined : (mk (a ++ b)).pieces = (mk front).pieces ++ (mk b).pieces := by
      rw [← pieces_append, hfront', List.append_assoc, List.singleton_append]
    rw [if_pos (by simp [hlast]), foldOn_eq, foldOn_eq (mk b), foldOn_eq (mk a), hjoined, hpieces,
      isAbsolute_append hne, hq, List.filterMap_append, List.filterMap_append, List.foldl_append,
      List.foldl_append]
    rfl
  · rw [if_neg (by simp [hne, hlast])]
    exact foldOn_append_slash hne hq []

/-! ### What is written from a stack -/

/-- **The stacks that cleaning leaves**: names on top of the root, or of steps up. -/
inductive IsFolded : List Component → Prop
  /-- Nothing is left. -/
  | nil : IsFolded []
  /-- The root. -/
  | root : IsFolded [.root]
  /-- A step up out of a relative path, on others like it. -/
  | parent {done : List Component} (hdone : IsFolded done) (hall : ∀ c ∈ done, c = .parent) :
      IsFolded (.parent :: done)
  /-- A name on top of what is there. -/
  | name {done : List Component} {name : Bytes} (hdone : IsFolded done) (hname : IsName name) :
      IsFolded (.name name :: done)

theorem IsFolded.cleanStep {done : List Component} (h : IsFolded done) {c : Component}
    (hc : c = .parent ∨ ∃ name, IsName name ∧ c = .name name) : IsFolded (cleanStep done c) := by
  rcases hc with rfl | ⟨name, hname, rfl⟩
  · cases h with
    | nil => exact .parent .nil (by simp)
    | root => exact .root
    | parent hdone hall =>
      refine .parent (.parent hdone hall) fun c hc => ?_
      rcases List.mem_cons.1 hc with rfl | hc
      · rfl
      · exact hall c hc
    | name hdone _ => exact hdone
  · exact .name h hname

/-- **Folding a path leaves such a stack.** -/
theorem isFolded_foldOn (p : Path) : IsFolded (p.foldOn []) := by
  have hsteps : ∀ c ∈ p.pieces.filterMap Component.ofPiece?,
      c = .parent ∨ ∃ name, IsName name ∧ c = .name name := by
    intro c hc
    obtain ⟨piece, hpiece, hsome⟩ := List.mem_filterMap.1 hc
    exact ofPiece?_eq_some (notMem_of_mem_splitOn hpiece) hsome
  have hstart : IsFolded (if p.isAbsolute then [.root] else []) := by
    split
    · exact .root
    · exact .nil
  rw [foldOn_eq]
  generalize p.pieces.filterMap Component.ofPiece? = steps at hsteps
  generalize (if p.isAbsolute then [Component.root] else []) = done at hstart
  induction steps generalizing done with
  | nil => exact hstart
  | cons c steps ih =>
    exact ih (fun d hd => hsteps d (List.mem_cons_of_mem c hd)) _
      (hstart.cleanStep (hsteps c List.mem_cons_self))

theorem IsName.ofPiece? {name : Bytes} (h : IsName name) :
    Component.ofPiece? name = some (.name name) := by
  rw [Component.ofPiece?, if_neg h.ne_nil, if_neg h.ne_dot, if_neg h.ne_dots]

theorem IsName.foldOn {name : Bytes} (h : IsName name) (done : List Component) :
    (Path.mk name).foldOn done = .name name :: done := by
  rw [foldOn_eq, h.not_isAbsolute, h.pieces, List.filterMap_cons, h.ofPiece?]
  rfl

theorem ofComponents_concat (components : List Component) (c : Component) :
    ofComponents (components ++ [c]) = (ofComponents components).join ⟨c.bytes⟩ := by
  rw [ofComponents, List.foldl_append]
  rfl

/-- **Each component is read back as what it was.** -/
theorem foldOn_ofComponents {done : List Component} (h : IsFolded done) :
    (ofComponents done.reverse).foldOn [] = done := by
  induction h with
  | nil => rfl
  | root => rfl
  | @parent done hdone hall ih =>
    have hup : (mk Component.parent.bytes).foldOn done = .parent :: done := by
      cases done with
      | nil => rfl
      | cons c done =>
        obtain rfl := hall c List.mem_cons_self
        rfl
    rw [List.reverse_cons, ofComponents_concat, foldOn_join _ rfl, ih, hup]
  | @name done name hdone hname ih =>
    rw [List.reverse_cons, ofComponents_concat, Component.bytes,
      foldOn_join _ hname.not_isAbsolute, ih, hname.foldOn]

theorem foldOn_ofFolded {done : List Component} (h : IsFolded done) :
    (ofFolded done).foldOn [] = done := by
  rw [ofFolded]
  split
  · rename_i hnil
    rw [hnil]
    rfl
  · exact foldOn_ofComponents h

/-- **A clean path has the stack that it was written from.** -/
theorem foldOn_clean (p : Path) : p.clean.foldOn [] = p.foldOn [] := by
  rw [clean_eq_ofFolded, foldOn_ofFolded p.isFolded_foldOn]

/-- **Clean paths are the fixed points of cleaning.** -/
theorem clean_clean (p : Path) : p.clean.clean = p.clean :=
  clean_congr p.foldOn_clean

/-! ### Absolute paths -/

/-- A stack of names on the root. -/
theorem isFolded_doneNames {names : List Bytes} (hnames : ∀ name ∈ names, IsName name) :
    IsFolded (doneNames names) := by
  induction names using List.reverseRecOn with
  | nil => exact .root
  | append_singleton names name ih =>
    rw [← cleanStep_name]
    exact .name (ih fun n hn => hnames n (List.mem_append_left _ hn)) (hnames name (by simp))

theorem foldOn_ofNames {names : List Bytes} (hnames : ∀ name ∈ names, IsName name) :
    (ofNames names).foldOn [] = doneNames names := by
  have hfolded := foldOn_ofComponents (isFolded_doneNames hnames)
  rwa [doneNames, List.reverse_reverse, ofComponents_names hnames] at hfolded

/-- **A path of names is clean.** -/
theorem clean_ofNames {names : List Bytes} (hnames : ∀ name ∈ names, IsName name) :
    (ofNames names).clean = ofNames names := by
  have hne : doneNames names ≠ [] := by simp [doneNames]
  rw [clean_eq_ofFolded, foldOn_ofNames hnames, ofFolded, if_neg hne, doneNames,
    List.reverse_reverse, ofComponents_names hnames]

/-- The last name of a path comes out on top. -/
theorem exists_foldOn_of_fileName? {p : Path} {name : Bytes} (h : p.fileName? = some name)
    (done : List Component) : ∃ rest, p.foldOn done = .name name :: rest := by
  unfold fileName? at h
  split at h
  · rename_i last hlast
    obtain rfl := Option.some.inj h
    obtain ⟨before, hbefore⟩ := List.getLast?_eq_some_iff.1 hlast
    refine ⟨before.foldl cleanStep done, ?_⟩
    rw [foldOn, hbefore, List.foldl_append]
    rfl
  · cases h

/-- **A name stays the last one**: when a path is joined to an absolute one, the last name of the
path is the last name of the result, whatever steps it takes before. -/
theorem clean_join_of_fileName? {p q : Path} (hp : p.isAbsolute = true)
    (hq : q.isAbsolute = false) {name : Bytes} (hname : q.fileName? = some name) :
    ∃ front, (∀ n ∈ front ++ [name], IsName n) ∧ (p.join q).clean = ofNames (front ++ [name]) := by
  obtain ⟨names, hnames, hclean⟩ := clean_eq_ofNames (isAbsolute_join hp q)
  obtain ⟨rest, hrest⟩ := exists_foldOn_of_fileName? hname (p.foldOn [])
  have htop : doneNames names = .name name :: rest := by
    rw [← foldOn_ofNames hnames, ← hclean, foldOn_clean, foldOn_join p hq, hrest]
  -- the root is below every name, so there is one on top only if there are names
  rcases names.eq_nil_or_concat' with rfl | ⟨front, last, rfl⟩
  · cases htop
  · rw [← cleanStep_name] at htop
    obtain ⟨hlast, -⟩ := List.cons.inj htop
    obtain rfl := Component.name.inj hlast
    exact ⟨front, hnames, hclean⟩

end Signpost.Path
