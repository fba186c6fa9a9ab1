import Signpost.Proofs.Path.Folding
import Signpost.Proofs.Resolve.Target

/-!
# References that go through another

A reference may be given in two parts with a slash between them. It leads where the second part
leads from the place that the first part leads to (`Signpost.Target.candidate?_append_slash`),
although that place is a clean path by then, written anew, and the first part may have had any
number of dots and slashes. The reason is that a relative reference does one thing only: **it goes
on with the stack of the directory that it is followed from** (`Signpost.Target.Relative.foldOn_eq`).

The same fact tells what the place is like (`Signpost.Target.Settled`). It is clean, and on it a
step down by a name and the step up are inverse to each other. From an absolute directory the step
up takes the last name away, and at the root, where there is none, it stays.
-/

namespace Signpost

theorem Utf8.encode_ne_nil {t : Text} (h : t ≠ []) : encode t ≠ [] := by
  obtain ⟨c, rest, rfl⟩ := List.exists_cons_of_ne_nil h
  exact List.append_ne_nil_of_left_ne_nil String.utf8EncodeChar_ne_nil _

/-- The bytes of a text with a slash in it are the bytes around the slash. -/
theorem Path.ofText_append_slash (a b : Text) :
    ofText (a ++ '/' :: b) = ⟨Utf8.encode a ++ slash :: Utf8.encode b⟩ :=
  congrArg mk (Utf8.encode_append a ('/' :: b))

namespace Target

/-- The step up. -/
def stepUp : Text := ['.', '.']

/-! ### Relative references -/

theorem Relative.not_isAbsolute {reference : Text} (h : Relative reference) :
    (Path.ofText reference).isAbsolute = false := by
  rw [Bool.eq_false_iff]
  exact fun habs => h.not_rooted (Path.isAbsolute_ofText.1 habs)

/-- **A reference goes on with the stack of its directory.** -/
theorem Relative.foldOn_eq {reference : Text} (h : Relative reference) (directory : Path) :
    (directory.join (.ofText reference)).clean.foldOn [] =
      (Path.ofText reference).foldOn (directory.foldOn []) := by
  rw [Path.foldOn_clean, Path.foldOn_join directory h.not_isAbsolute]

theorem relative_stepUp : Relative stepUp :=
  ⟨by decide, by decide, by decide⟩

/-- A name is a relative reference. -/
theorem relative_of_isName {name : Text} (h : Path.IsName (Utf8.encode name)) : Relative name := by
  refine ⟨?_, ?_, ?_⟩
  · rintro rfl
    exact h.ne_nil rfl
  · intro hhead
    have habs := Path.isAbsolute_ofText.2 hhead
    rw [Path.ofText, h.not_isAbsolute] at habs
    cases habs
  · intro hmark
    have hmem : '/' ∈ name := hmark.subset (by decide)
    exact h.slash_notMem (List.mem_flatMap.2 ⟨'/', hmem, by decide⟩)

/-- Both parts of a reference are relative if the whole does not look like a URL. -/
theorem relative_append_slash {a b : Text} (ha : a ≠ []) (ha' : a.head? ≠ some '/')
    (hb : b ≠ []) (hb' : b.head? ≠ some '/') (hmark : ¬ schemeMark <:+: a ++ '/' :: b) :
    Relative a ∧ Relative b ∧ Relative (a ++ '/' :: b) := by
  refine ⟨⟨ha, ha', fun h => hmark ?_⟩, ⟨hb, hb', fun h => hmark ?_⟩, ⟨?_, ?_, hmark⟩⟩
  · exact h.trans (List.infix_append' [] a ('/' :: b))
  · exact h.trans ((List.suffix_cons '/' b).trans (List.suffix_append a _)).isInfix
  · exact List.append_ne_nil_of_left_ne_nil ha _
  · rwa [List.head?_append_of_ne_nil _ ha]

/-! ### Up and down -/

/-- **What the place of a reference is like**, when it is followed from a directory. -/
structure Settled (directory x : Path) : Prop where
  /-- The place is clean. -/
  clean_eq : x.clean = x
  /-- The step up undoes a name. -/
  up_down : ∀ name, Path.IsName (Utf8.encode name) →
    ∃ y, candidate? x name = some y ∧ candidate? y stepUp = some x
  /-- The last name of the place undoes the step up. -/
  down_up : ∀ name, x.fileName? = some name →
    ∃ y, candidate? x stepUp = some y ∧ (y.join ⟨name⟩).clean = x
  /-- Below the root the step up takes the last name away, and at the root it stays. -/
  up_names : directory.isAbsolute = true → ∃ names, (∀ name ∈ names, Path.IsName name) ∧
    x = .ofNames names ∧ candidate? x stepUp = some (.ofNames names.dropLast)

/-- The step up takes the component on top of the stack away. -/
theorem foldOn_stepUp (x : Path) :
    (x.join (.ofText stepUp)).clean.foldOn [] = Path.cleanStep (x.foldOn []) .parent :=
  relative_stepUp.foldOn_eq x

/-- The step up takes a name away that has just been put on top. -/
theorem exists_candidate?_of_isName {x : Path} (hclean : x.clean = x) {name : Text}
    (hname : Path.IsName (Utf8.encode name)) :
    ∃ y, candidate? x name = some y ∧ candidate? y stepUp = some x := by
  have hrel := relative_of_isName hname
  refine ⟨_, candidate?_eq_some_iff.2 ⟨hrel, rfl⟩,
    candidate?_eq_some_iff.2 ⟨relative_stepUp, ?_⟩⟩
  have hfold : ((x.join (.ofText name)).clean.join (.ofText stepUp)).foldOn [] = x.foldOn [] := by
    rw [← Path.foldOn_clean, foldOn_stepUp, hrel.foldOn_eq, Path.ofText, hname.foldOn]
    rfl
  rw [Path.clean_congr hfold, hclean]

/-- The last name puts back what the step up has taken away. -/
theorem exists_candidate?_stepUp {x : Path} (hclean : x.clean = x) {name : Bytes}
    (hname : x.fileName? = some name) :
    ∃ y, candidate? x stepUp = some y ∧ (y.join ⟨name⟩).clean = x := by
  obtain ⟨rest, hrest⟩ := Path.exists_foldOn_of_fileName? hname []
  have hisName : Path.IsName name := by
    have hfolded := x.isFolded_foldOn
    rw [hrest] at hfolded
    cases hfolded
    assumption
  refine ⟨_, candidate?_eq_some_iff.2 ⟨relative_stepUp, rfl⟩, ?_⟩
  have hfold : ((x.join (.ofText stepUp)).clean.join ⟨name⟩).foldOn [] = x.foldOn [] := by
    rw [Path.foldOn_join _ hisName.not_isAbsolute, foldOn_stepUp, hrest, hisName.foldOn]
    rfl
  rw [Path.clean_congr hfold, hclean]

/-- From an absolute path the step up leads to all names but the last. -/
theorem candidate?_ofNames_stepUp {names : List Bytes}
    (hnames : ∀ name ∈ names, Path.IsName name) :
    candidate? (.ofNames names) stepUp = some (.ofNames names.dropLast) := by
  have hnames' : ∀ name ∈ names.dropLast, Path.IsName name :=
    fun name hname => hnames name (List.dropLast_subset names hname)
  refine candidate?_eq_some_iff.2 ⟨relative_stepUp, ?_⟩
  have hfold : ((Path.ofNames names).join (.ofText stepUp)).foldOn [] =
      (Path.ofNames names.dropLast).foldOn [] := by
    rw [← Path.foldOn_clean, foldOn_stepUp, Path.foldOn_ofNames hnames, Path.cleanStep_parent,
      Path.foldOn_ofNames hnames']
  rw [Path.clean_congr hfold, Path.clean_ofNames hnames']

/-- **The place of a reference is settled.** -/
theorem settled_of_candidate? {directory x : Path} {reference : Text}
    (h : candidate? directory reference = some x) : Settled directory x := by
  obtain ⟨-, hx⟩ := candidate?_eq_some_iff.1 h
  have hclean : x.clean = x := by rw [hx, Path.clean_clean]
  refine ⟨hclean, fun name => exists_candidate?_of_isName hclean,
    fun name => exists_candidate?_stepUp hclean, fun habs => ?_⟩
  obtain ⟨names, hnames, hofNames⟩ := Path.clean_eq_ofNames
    (Path.isAbsolute_join habs (.ofText reference))
  rw [← hx] at hofNames
  refine ⟨names, hnames, hofNames, ?_⟩
  rw [hofNames]
  exact candidate?_ofNames_stepUp hnames

/-! ### Composition -/

/-- **References compose.** What a reference in two parts leads to is what the second part leads to
from the place of the first. -/
theorem candidate?_append_slash (directory : Path) {a b : Text} (ha : a ≠ [])
    (ha' : a.head? ≠ some '/') (hb : b ≠ []) (hb' : b.head? ≠ some '/')
    (hmark : ¬ schemeMark <:+: a ++ '/' :: b) :
    ∃ x y, candidate? directory a = some x ∧ candidate? x b = some y ∧
      candidate? directory (a ++ '/' :: b) = some y ∧ Settled directory x ∧
      Settled directory y := by
  obtain ⟨hrel, hrel', hrel''⟩ := relative_append_slash ha ha' hb hb' hmark
  obtain ⟨x, hx'⟩ : ∃ x, x = (directory.join (.ofText a)).clean := ⟨_, rfl⟩
  have hx : candidate? directory a = some x := candidate?_eq_some_iff.2 ⟨hrel, hx'⟩
  have hy : candidate? x b = some (x.join (.ofText b)).clean :=
    candidate?_eq_some_iff.2 ⟨hrel', rfl⟩
  have hfold : (directory.join (.ofText (a ++ '/' :: b))).foldOn [] =
      (x.join (.ofText b)).foldOn [] := by
    calc (directory.join (.ofText (a ++ '/' :: b))).foldOn []
        = (Path.ofText (a ++ '/' :: b)).foldOn (directory.foldOn []) :=
          Path.foldOn_join directory hrel''.not_isAbsolute
      _ = (Path.ofText b).foldOn ((Path.ofText a).foldOn (directory.foldOn [])) := by
          rw [Path.ofText_append_slash]
          exact Path.foldOn_append_slash (Utf8.encode_ne_nil ha) hrel'.not_isAbsolute _
      _ = (Path.ofText b).foldOn (x.foldOn []) := by rw [hx', hrel.foldOn_eq]
      _ = (x.join (.ofText b)).foldOn [] := (Path.foldOn_join x hrel'.not_isAbsolute).symm
  have hwhole : candidate? directory (a ++ '/' :: b) = some (x.join (.ofText b)).clean :=
    candidate?_eq_some_iff.2 ⟨hrel'', (Path.clean_congr hfold).symm⟩
  exact ⟨x, _, hx, hy, hwhole, settled_of_candidate? hx, settled_of_candidate? hwhole⟩

/-- The first part leads above a relative directory, where nothing but a step up is left to write,
and the second goes on from there. -/
theorem candidate?_append_slash_above :
    candidate? (.ofString "d") "./a//../../..".toList = some (.ofString "..") ∧
      candidate? (.ofString "..") "../c.html".toList = some (.ofString "../../c.html") ∧
      candidate? (.ofString "d") "./a//../../../../c.html".toList =
        some (.ofString "../../c.html") ∧
      Settled (.ofString "d") (.ofString "..") := by
  have hx : candidate? (.ofString "d") "./a//../../..".toList = some (.ofString "..") := by
    decide +kernel
  have hy : candidate? (.ofString "..") "../c.html".toList = some (.ofString "../../c.html") := by
    decide +kernel
  obtain ⟨x, y, hx', hy', hwhole, hsettled, -⟩ :=
    candidate?_append_slash (.ofString "d") (a := "./a//../../..".toList) (b := "../c.html".toList)
      (by decide) (by decide) (by decide) (by decide) (by decide +kernel)
  obtain rfl := Option.some.inj (hx.symm.trans hx')
  obtain rfl := Option.some.inj (hy.symm.trans hy')
  exact ⟨hx, hy, hwhole, hsettled⟩

end Target

end Signpost
