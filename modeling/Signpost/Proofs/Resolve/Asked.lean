import Signpost.Proofs.Resolve.Joining
import Signpost.Proofs.Text.Cuts
import Signpost.Proofs.Token.Scan

/-!
# What resolution asks about

Whether a token is a reference of the right kind is decided on its text: on a page by the extension
of the path that it names, in a script by the end of the string. The probe is asked about another
path, which is joined from the directory and the token and then folded, and the token may hold any
number of dots and slashes. Nevertheless the probe is asked about files of the right kind only. For
**the kind of a file is told by its last name, and folding never touches the last name**
(`Signpost.Path.clean_join_of_fileName?`).

Being of the right kind is therefore said of paths (`Signpost.Grammar.Suits`). It holds of the path
that the token names, and it passes to every path with the same last name
(`Signpost.Grammar.Suits.congr`). On a page the first is what is tested. In a script it has to be
seen that the ending of the string is in the last name, and it is, because no ending has a slash
(`Signpost.Grammar.suits_of_isName`).

The rest is about the probe. There is at most one path that it is asked about, the same for all
probes, and what it says about this path is all that matters (`Signpost.AsksOnly`).
-/

namespace Signpost

/-! ### Last names -/

namespace Path

/-- A path whose last piece is a name has it as its last name. -/
theorem fileName?_of_pieces {p : Path} {front : List Bytes} {last : Bytes}
    (h : p.pieces = front ++ [last]) (hlast : IsName last) : p.fileName? = some last := by
  obtain ⟨before, hbefore⟩ : ∃ before, p.components = before ++ [.name last] := by
    rw [components, h]
    rcases front with _ | ⟨first, front⟩
    · have hrelative : ¬ p.isAbsolute = true := by
        intro habs
        obtain ⟨rest, hrest⟩ := isAbsolute_iff.1 habs
        rw [pieces_of_absolute hrest] at h
        exact hlast.ne_nil (List.cons.inj h).1.symm
      exact ⟨[], by simp [hrelative, hlast.ne_dot, hlast.ofPiece?]⟩
    · have htail : (front ++ [last]).filterMap Component.ofPiece? =
          front.filterMap Component.ofPiece? ++ [.name last] := by
        rw [List.filterMap_append, List.filterMap_cons, hlast.ofPiece?]
        rfl
      simp only [List.cons_append, htail]
      split
      · exact ⟨_ :: _, rfl⟩
      · split
        · exact ⟨_ :: _, rfl⟩
        · exact ⟨_ ++ _, (List.append_assoc _ _ _).symm⟩
  rw [fileName?, hbefore, List.getLast?_concat]

/-- What has no slash stays in one piece. -/
theorem exists_pieces_append (a : Bytes) {ending : Bytes} (h : slash ∉ ending) :
    ∃ front last, (mk (a ++ ending)).pieces = front ++ [last ++ ending] := by
  induction a with
  | nil => exact ⟨[], [], List.splitOn_eq_singleton h⟩
  | cons b a ih =>
    obtain ⟨front, last, hpieces⟩ := ih
    have hsplit : (a ++ ending).splitOn slash = front ++ [last ++ ending] := hpieces
    rw [pieces, List.cons_append, List.splitOn_cons_eq_if_modifyHead, hsplit]
    by_cases hb : b = slash
    · exact ⟨[] :: front, last, by simp [hb]⟩
    · rcases front with _ | ⟨first, front⟩
      · exact ⟨[], b :: last, by simp [hb]⟩
      · exact ⟨(b :: first) :: front, last, by simp [hb]⟩

/-- **The last name of a text ends as the text does**, up to the last slash. -/
theorem exists_fileName?_ofText_append (stem : Text) {ending : Text}
    (hslash : slash ∉ Utf8.encode ending) (hlength : 2 < (Utf8.encode ending).length) :
    ∃ last, (ofText (stem ++ ending)).fileName? = some (last ++ Utf8.encode ending) := by
  obtain ⟨front, last, hpieces⟩ := exists_pieces_append (Utf8.encode stem) hslash
  rw [← Utf8.encode_append] at hpieces
  -- what is longer than two dots is neither a step nor nothing
  have hlonger : 2 < (last ++ Utf8.encode ending).length := by
    rw [List.length_append]
    omega
  have hmem : last ++ Utf8.encode ending ∈ (mk (Utf8.encode (stem ++ ending))).pieces := by
    rw [hpieces]
    exact List.mem_append_right front List.mem_cons_self
  have hname : IsName (last ++ Utf8.encode ending) := by
    refine ⟨?_, ?_, ?_, notMem_of_mem_splitOn hmem⟩
    · intro hnil
      simp [hnil] at hlonger
    · intro hdot
      simp [hdot] at hlonger
    · intro hdots
      simp [hdots] at hlonger
  exact ⟨last, fileName?_of_pieces hpieces hname⟩

end Path

/-! ### Files of the right kind -/

namespace Grammar

/-- The token of a grammar that stands under a position. -/
def tokenAt? (grammar : Grammar) (source : Source) (position : Position) : Option Token :=
  (source.line position.line).bind fun line =>
    match grammar with
    | .page => Include.at? line position.character
    | .script => Script.at? line position.character

/-- **The files that a grammar refers to**: pages have the extension `html`, and the name of a
script has one of the endings of scripts. -/
def Suits : Grammar → Path → Prop
  | .page, p => p.extension? = some (Utf8.encode "html".toList)
  | .script, p => ∃ name ending, p.fileName? = some name ∧ ending ∈ Script.endings ∧
      Utf8.encode ending <:+ name

variable {grammar : Grammar}

theorem Suits.exists_fileName? {p : Path} (h : grammar.Suits p) :
    ∃ name, p.fileName? = some name := by
  cases grammar with
  | page =>
    obtain ⟨name, hname, -⟩ := Option.bind_eq_some_iff.1 h
    exact ⟨name, hname⟩
  | script =>
    obtain ⟨name, -, hname, -⟩ := h
    exact ⟨name, hname⟩

/-- **Only the last name counts.** -/
theorem Suits.congr {p q : Path} (h : grammar.Suits p) (hname : q.fileName? = p.fileName?) :
    grammar.Suits q := by
  cases grammar with
  | page =>
    have hextension : q.extension? = p.extension? := by
      rw [Path.extension?, Path.extension?, hname]
    exact hextension.trans h
  | script =>
    obtain ⟨name, ending, hp, hends⟩ := h
    exact ⟨name, ending, hname.trans hp, hends⟩

/-- **A script string names a script.** -/
theorem suits_of_isName {content : Text} (h : Script.isName content = true) :
    Grammar.script.Suits (.ofText content) := by
  obtain ⟨stem, ending, hending, -, rfl⟩ := Script.isName_iff.1 h
  have hendings : ∀ ending ∈ Script.endings,
      Path.slash ∉ Utf8.encode ending ∧ 2 < (Utf8.encode ending).length := by decide
  obtain ⟨hslash, hlength⟩ := hendings ending hending
  obtain ⟨last, hlast⟩ := Path.exists_fileName?_ofText_append stem hslash hlength
  exact ⟨_, ending, hlast, hending, List.suffix_append _ _⟩

end Grammar

/-! ### The one path -/

/-- **A path that resolution may ask about**, at a position of a document. -/
structure Aim (grammar : Grammar) (source : Source) (position : Position) (path : Path) where
  /-- The token under the cursor. -/
  token : Token
  /-- The directory of the document. -/
  directory : Path
  /-- The names of the directories on the way to the file. -/
  front : List Bytes
  /-- The name of the file. -/
  name : Bytes
  /-- The token is the one that the grammar finds. -/
  token_eq : grammar.tokenAt? source position = some token
  /-- The directory is that of the document. -/
  directory_eq : source.directory = some directory
  /-- The path is where the token leads to from there. -/
  path_eq : Target.candidate? directory token.content = some path
  /-- The path starts at the root. -/
  isAbsolute : path.isAbsolute = true
  /-- Behind the first slash stand the names, with one slash between them. -/
  pieces_eq : path.pieces = [] :: (front ++ [name])
  /-- They are names: not empty, and no steps. -/
  isName : ∀ piece ∈ front ++ [name], Path.IsName piece
  /-- The token ends in the name of the file. -/
  fileName?_token : (Path.ofText token.content).fileName? = some name
  /-- So does the path. -/
  fileName?_path : path.fileName? = some name
  /-- The file is one of those that the grammar refers to. -/
  suits : grammar.Suits path

/-- **Resolution asks about one path at most.** -/
structure AsksOnly (grammar : Grammar) (source : Source) (position : Position) (limit : Nat)
    (asked : Option Path) : Prop where
  /-- Which path is asked about does not depend on the probe. -/
  asked?_eq : ∀ probe, (resolve grammar source position limit probe).asked? = asked
  /-- Nothing else that a probe could say has an effect. -/
  congr : ∀ probe probe' : Probe, (∀ path, asked = some path → probe path = probe' path) →
    resolve grammar source position limit probe = resolve grammar source position limit probe'
  /-- The path is of the right kind. -/
  aim : ∀ path, asked = some path → Nonempty (Aim grammar source position path)
  /-- There is a reference exactly if the probe is asked and accepts, and it leads to the path that
  was asked about. -/
  reference?_iff : ∀ (probe : Probe) path,
    (∃ r, (resolve grammar source position limit probe).reference? = some r ∧
      r.target.path = path) ↔ asked = some path ∧ probe path = .ok ()

theorem Lookup.asked?_run (probe : Probe) (directory : Path) (reference : Text) :
    (run probe directory reference).asked? = Target.candidate? directory reference := by
  rw [run]
  rcases Target.candidate? directory reference with _ | path
  · rfl
  · dsimp only
    split
    · rfl
    · split <;> rfl

theorem Target.isAbsolute_of_candidate? {directory path : Path} {reference : Text}
    (habs : directory.isAbsolute = true) (h : candidate? directory reference = some path) :
    path.isAbsolute = true := by
  obtain ⟨-, rfl⟩ := candidate?_eq_some_iff.1 h
  exact Path.isAbsolute_clean (Path.isAbsolute_join habs _)

/-- **The candidate of a reference keeps its last name.** -/
theorem Target.pieces_of_candidate? {directory path : Path} {reference : Text}
    (habs : directory.isAbsolute = true) (h : candidate? directory reference = some path)
    {name : Bytes} (hname : (Path.ofText reference).fileName? = some name) :
    ∃ front, (∀ piece ∈ front ++ [name], Path.IsName piece) ∧
      path.pieces = [] :: (front ++ [name]) ∧ path.fileName? = some name := by
  obtain ⟨hrel, rfl⟩ := candidate?_eq_some_iff.1 h
  obtain ⟨front, hfront, hclean⟩ := Path.clean_join_of_fileName? habs hrel.not_isAbsolute hname
  have hne : front ++ [name] ≠ [] := by simp
  have hpieces : (directory.join (.ofText reference)).clean.pieces = [] :: (front ++ [name]) := by
    rw [hclean, Path.ofNames_eq_ofPieces hne]
    refine Path.pieces_ofPieces (by simp) fun piece hpiece => ?_
    rcases List.mem_cons.1 hpiece with rfl | hpiece
    · simp
    · exact (hfront piece hpiece).slash_notMem
  have hconcat : (directory.join (.ofText reference)).clean.pieces = ([] :: front) ++ [name] :=
    hpieces
  exact ⟨front, hfront, hpieces, Path.fileName?_of_pieces hconcat (hfront name (by simp))⟩

/-- **Resolution asks nothing, or looks up a suitable token**, whatever the probe. -/
theorem resolve_cases (grammar : Grammar) (source : Source) (position : Position) (limit : Nat) :
    (∃ attempt : Attempt, attempt.asked? = none ∧ attempt.reference? = none ∧
        ∀ probe, resolve grammar source position limit probe = attempt) ∨
      ∃ token, grammar.tokenAt? source position = some token ∧
        grammar.Suits (.ofText token.content) ∧
        ∀ probe, resolve grammar source position limit probe =
          .lookUp source probe (token.span.onLine position.line) token.content := by
  cases grammar with
  | page =>
    rcases hat : (source.line position.line).bind fun line => Include.at? line position.character
      with _ | token
    · exact Or.inl ⟨.nothing, rfl, rfl, fun probe => by simp only [resolve, Attempt.onPage, hat]⟩
    · by_cases hpage : Attempt.namesPage token.content = true
      · have hsuits : (Path.ofText token.content).extension? = some Attempt.pageExtension :=
          of_decide_eq_true hpage
        refine Or.inr ⟨token, hat, hsuits, fun probe => ?_⟩
        simp only [resolve, Attempt.onPage, hat, if_pos hpage]
      · refine Or.inl ⟨.notAPage token.content, rfl, rfl, fun probe => ?_⟩
        simp only [resolve, Attempt.onPage, hat, if_neg hpage]
  | script =>
    rcases hat : (source.line position.line).bind fun line => Script.at? line position.character
      with _ | token
    · exact Or.inl ⟨.nothing, rfl, rfl, fun probe => by simp only [resolve, Attempt.onScript, hat]⟩
    · by_cases hverified : Construction.verify source.line position.line (Script.quoteByte token)
          limit (source.declaration position) = true
      · have hname : Script.isName token.content = true := by
          obtain ⟨line, -, hfound⟩ := Option.bind_eq_some_iff.1 hat
          obtain ⟨front, e, back, -, hrecognised, rfl, -⟩ :=
            Token.find?_eq_some Script.recognise_sound hfound
          obtain ⟨-, -, -, -, hname, -⟩ := Script.recognise_eq_some hrecognised
          exact hname
        refine Or.inr ⟨token, hat, Grammar.suits_of_isName hname, fun probe => ?_⟩
        simp only [resolve, Attempt.onScript, hat, if_pos hverified]
      · refine Or.inl ⟨.notConstructed token.content, rfl, rfl, fun probe => ?_⟩
        simp only [resolve, Attempt.onScript, hat, if_neg hverified]

/-- A lookup in an absolute directory finds its candidate exactly if the probe accepts it. -/
theorem Attempt.exists_reference?_lookUp_iff {source : Source} {directory : Path}
    (hdirectory : source.directory = some directory) (habs : directory.isAbsolute = true)
    (probe : Probe) (origin : Range) (reference : Text) (path : Path) :
    (∃ r, (lookUp source probe origin reference).reference? = some r ∧ r.target.path = path) ↔
      Target.candidate? directory reference = some path ∧ probe path = .ok () := by
  constructor
  · rintro ⟨r, hr, rfl⟩
    obtain ⟨-, directory', hsame, htarget⟩ := reference?_lookUp_eq_some_iff.1 hr
    obtain rfl := Option.some.inj (hdirectory.symm.trans hsame)
    obtain ⟨hrel, hpath, hprobe, -⟩ := Lookup.target?_run_eq_some_iff.1 htarget
    exact ⟨Target.candidate?_eq_some_iff.2 ⟨hrel, hpath⟩, hprobe⟩
  · rintro ⟨hcandidate, hprobe⟩
    obtain ⟨hrel, rfl⟩ := Target.candidate?_eq_some_iff.1 hcandidate
    obtain ⟨target, hpath, -, htarget⟩ := Lookup.target?_run_of_probe habs hrel hprobe
    exact ⟨⟨origin, target⟩, reference?_lookUp_eq_some_iff.2 ⟨rfl, directory, hdirectory, htarget⟩,
      hpath⟩

/-- An attempt that is the same for all probes and never came to ask is about no path. -/
theorem asksOnly_none {grammar : Grammar} {source : Source} {position : Position} {limit : Nat}
    {attempt : Attempt} (hasked : attempt.asked? = none) (hreference : attempt.reference? = none)
    (hall : ∀ probe, resolve grammar source position limit probe = attempt) :
    AsksOnly grammar source position limit none where
  asked?_eq probe := by rw [hall, hasked]
  congr probe probe' _ := by rw [hall, hall]
  aim := nofun
  reference?_iff probe path := by simp [hall, hreference]

/-- **Resolution asks about one file of the right kind, or about none**, and what it is told decides
about the reference. -/
theorem exists_asksOnly (grammar : Grammar) (source : Source)
    (habs : ∀ directory, source.directory = some directory → directory.isAbsolute = true)
    (position : Position) (limit : Nat) :
    ∃ asked, AsksOnly grammar source position limit asked := by
  rcases resolve_cases grammar source position limit with
    ⟨attempt, hasked, hreference, hall⟩ | ⟨token, htoken, hsuits, hall⟩
  · exact ⟨none, asksOnly_none hasked hreference hall⟩
  rcases hdirectory : source.directory with _ | directory
  · have hnone : ∀ probe, resolve grammar source position limit probe = .noDirectory := by
      intro probe
      rw [hall, Attempt.lookUp, hdirectory]
    exact ⟨none, asksOnly_none rfl rfl hnone⟩
  · have hlookedUp : ∀ probe, resolve grammar source position limit probe =
        .lookedUp (token.span.onLine position.line) (.run probe directory token.content) := by
      intro probe
      rw [hall, Attempt.lookUp, hdirectory]
    have habs' := habs directory hdirectory
    refine ⟨Target.candidate? directory token.content, fun probe => ?_, fun probe probe' h => ?_,
      fun path hpath => ?_, fun probe path => ?_⟩
    · rw [hlookedUp]
      exact Lookup.asked?_run probe directory token.content
    · rw [hlookedUp, hlookedUp, Lookup.run_congr h]
    · obtain ⟨name, hname⟩ := hsuits.exists_fileName?
      obtain ⟨front, hfront, hpieces, hname'⟩ := Target.pieces_of_candidate? habs' hpath hname
      exact ⟨token, directory, front, name, htoken, hdirectory, hpath,
        Target.isAbsolute_of_candidate? habs' hpath, hpieces, hfront, hname, hname',
        hsuits.congr (hname'.trans hname.symm)⟩
    · rw [hall]
      exact Attempt.exists_reference?_lookUp_iff hdirectory habs' probe _ _ path

/-- Steps, idle slashes and dots stand around the name of the page, behind it as well. -/
theorem exists_asksOnly_dots :
    AsksOnly .page
      ⟨fun n => ["<!-- \x7b\x7b .././/a.html/. \x7d\x7d -->".toList][n]?, some (.ofString "/x/y"),
        fun _ => none⟩
      ⟨0, 12⟩ 32 (some (.ofString "/x/a.html")) := by
  obtain ⟨asked, hasks⟩ := exists_asksOnly .page
    ⟨fun n => ["<!-- \x7b\x7b .././/a.html/. \x7d\x7d -->".toList][n]?, some (.ofString "/x/y"),
      fun _ => none⟩
    (by rintro directory ⟨⟩; decide) ⟨0, 12⟩ 32
  obtain rfl : asked = some (.ofString "/x/a.html") :=
    (hasks.asked?_eq fun _ => .ok ()).symm.trans (by decide +kernel)
  exact hasks

end Signpost
