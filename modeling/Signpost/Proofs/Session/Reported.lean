import Signpost.Proofs.Resolve.Asked
import Signpost.Proofs.Session.Answer
import Signpost.Proofs.Url.File

/-!
# Reported URIs name the files that were probed

A client is told the URI of a target, and later speaks of the target under this URI, while the
probe asks about the path of the target. The two have to stand for the same file, and the way from
one to the other is long: the names of the path are escaped, the text is sent, read again by rules
that drop steps and repair drives, and decoded. Nothing is lost on it, whatever the bytes of the
path are. **The URL of a target leads back to its path** (`Signpost.Target.Named`).

All of this holds of every path of names but for one thing: a path that ends in a drive gets a
slash behind it when it is read from a URL (`Signpost.Url.closeDrive`). A target never ends like
this, because its name ends in one of a few endings (`Signpost.Grammar.endings`), and none of them
ends in the mark of a drive.
-/

namespace Signpost

/-! ### Drives -/

/-- The bytes that end a drive. -/
def Url.driveMarks : Bytes := [0x3A, 0x7C]

/-- **Without such a byte at its end a path is not closed.** -/
theorem Url.closeDrive_of_getLast? {bytes : Bytes}
    (h : ∀ mark ∈ driveMarks, bytes.getLast? ≠ some mark) : closeDrive bytes = bytes := by
  unfold closeDrive
  split
  · rename_i mark letter first more hreverse
    have hlast : bytes.getLast? = some mark := by
      rw [List.getLast?_eq_head?_reverse, hreverse, List.head?_cons]
    have hcolon : mark ≠ 0x3A := by
      rintro rfl
      exact h _ (by decide) hlast
    have hbar : mark ≠ 0x7C := by
      rintro rfl
      exact h _ (by decide) hlast
    rw [if_neg]
    simpa [← UInt8.toNat_inj] using fun _ => And.intro hcolon hbar
  · rfl

/-! ### Endings -/

namespace Path

theorem isSuffix_of_extensionOf? {name extension : Bytes} (h : extensionOf? name = some extension) :
    extension <:+ name := by
  unfold extensionOf? at h
  dsimp only at h
  split at h
  · obtain rfl := Option.some.inj h
    rw [← List.reverse_prefix, List.reverse_reverse]
    exact List.takeWhile_prefix _
  · cases h

theorem getLast?_ofNames_concat (front : List Bytes) {name : Bytes} (h : name ≠ []) :
    (ofNames (front ++ [name])).bytes.getLast? = name.getLast? := by
  rw [bytes_ofNames (by simp), List.flatMap_append, List.flatMap_singleton,
    List.getLast?_append_of_ne_nil _ (List.cons_ne_nil _ _), ← List.singleton_append,
    List.getLast?_append_of_ne_nil _ h]

end Path

namespace Grammar

/-- The endings of the files that a grammar refers to. -/
def endings : Grammar → List Text
  | page => ["html".toList]
  | script => Script.endings

theorem Suits.exists_ending {grammar : Grammar} {p : Path} {name : Bytes} (h : grammar.Suits p)
    (hname : p.fileName? = some name) :
    ∃ ending ∈ grammar.endings, Utf8.encode ending <:+ name := by
  cases grammar with
  | page =>
    obtain ⟨name', hname', hextension⟩ := Option.bind_eq_some_iff.1 h
    obtain rfl := Option.some.inj (hname.symm.trans hname')
    exact ⟨_, List.mem_cons_self, Path.isSuffix_of_extensionOf? hextension⟩
  | script =>
    obtain ⟨name', ending, hname', hending, hends⟩ := h
    obtain rfl := Option.some.inj (hname.symm.trans hname')
    exact ⟨ending, hending, hends⟩

/-- The endings end in an `l` or an `s`. -/
theorem getLast?_of_mem_endings {grammar : Grammar} {ending : Text} (h : ending ∈ grammar.endings) :
    (Utf8.encode ending).getLast? = some 0x6C ∨ (Utf8.encode ending).getLast? = some 0x73 := by
  revert ending
  cases grammar <;> decide

/-- **No file that a grammar refers to ends like a drive.** -/
theorem Suits.getLast?_ne {grammar : Grammar} {p : Path} {name : Bytes} (h : grammar.Suits p)
    (hname : p.fileName? = some name) {mark : UInt8} (hmark : mark ∈ Url.driveMarks) :
    name.getLast? ≠ some mark := by
  obtain ⟨ending, hending, stem, rfl⟩ := h.exists_ending hname
  have hlast := getLast?_of_mem_endings hending
  have hne : Utf8.encode ending ≠ [] := by
    intro hnil
    simp [hnil] at hlast
  rw [List.getLast?_append_of_ne_nil _ hne]
  intro hsame
  rw [hsame, Option.some.injEq, Option.some.injEq] at hlast
  rcases hlast with rfl | rfl
  · exact absurd hmark (by decide)
  · exact absurd hmark (by decide)

end Grammar

/-! ### Targets -/

/-- **A target that is known by its URL**: each of the two leads to the other, and the URL may be
written down and read again on the way. -/
structure Target.Named (target : Target) : Prop where
  /-- The URL leads to the path. -/
  toPath?_eq : target.url.toPath? = some target.path
  /-- The path leads to the URL. -/
  ofPath?_eq : Url.ofPath? target.path = some target.url
  /-- The text of the URL is read as the URL. -/
  parse_href : Url.parse target.url.href = .ok target.url

/-- A file that does not end like a drive is known by its URL. -/
theorem Target.named_of_ofNames {target : Target} {front : List Bytes} {name : Bytes}
    (hnames : ∀ n ∈ front ++ [name], Path.IsName n)
    (hend : ∀ mark ∈ Url.driveMarks, name.getLast? ≠ some mark)
    (hpath : target.path = .ofNames (front ++ [name]))
    (hurl : Url.ofPath? target.path = some target.url) : target.Named := by
  obtain ⟨hplain, hsame⟩ := Path.plain_ofNames hnames
  have hofNames : Url.ofNames (front ++ [name]) = target.url := by
    rwa [hpath, Url.ofPath?_of_plain hplain, hsame, Option.some.injEq] at hurl
  have hopen : Url.closeDrive (Path.ofNames (front ++ [name])).bytes =
      (Path.ofNames (front ++ [name])).bytes := by
    refine Url.closeDrive_of_getLast? fun mark hmark => ?_
    rw [Path.getLast?_ofNames_concat front (hnames name (by simp)).ne_nil]
    exact hend mark hmark
  refine ⟨?_, hurl, ?_⟩
  · rw [← hofNames, Url.toPath?_ofNames, hopen, hpath]
  · rw [← hofNames]
    exact Url.parse_href_ofNames hnames

/-- **What is resolved in an absolute directory is known by its URL.** -/
theorem Reference.named_of_resolve {grammar : Grammar} {source : Source} {position : Position}
    {limit : Nat} {probe : Probe} {r : Reference}
    (habs : ∀ directory, source.directory = some directory → directory.isAbsolute = true)
    (h : (resolve grammar source position limit probe).reference? = some r) : r.target.Named := by
  rcases resolve_cases grammar source position limit with
    ⟨attempt, -, hnone, hall⟩ | ⟨token, -, hsuits, hall⟩
  · rw [hall, hnone] at h
    cases h
  · rw [hall] at h
    obtain ⟨-, directory, hdirectory, htarget⟩ := Attempt.reference?_lookUp_eq_some_iff.1 h
    obtain ⟨hrel, hpath, -, hurl⟩ := Lookup.target?_run_eq_some_iff.1 htarget
    obtain ⟨name, hname⟩ := hsuits.exists_fileName?
    obtain ⟨front, hnames, hclean⟩ :=
      Path.clean_join_of_fileName? (habs directory hdirectory) hrel.not_isAbsolute hname
    exact Target.named_of_ofNames hnames (fun mark => hsuits.getLast?_ne hname)
      (hpath.trans hclean) hurl

/-! ### Documents under reported URIs -/

/-- **A URI that may be sent is sent as it is written.** -/
theorem Session.exists_destinationOf? (s : Session) {r : Reference}
    (h : Uri.isValid r.target.url.href = true) :
    ∃ destination, s.destinationOf? r = some destination ∧
      destination.uri = r.target.url.href := by
  refine ⟨_, if_pos h, ?_⟩
  split <;> rfl

/-- **A document that is opened under a reported URI is found by the probe**, at the path that was
probed when the URI was reported. -/
theorem Session.probe_of_opened_reported {grammar : Grammar} {source : Source}
    {position : Position} {limit : Nat} {probe : Probe} {r : Reference}
    (habs : ∀ directory, source.directory = some directory → directory.isAbsolute = true)
    (h : (resolve grammar source position limit probe).reference? = some r) :
    r.target.url.toPath? = some r.target.path ∧
      (Uri.isValid r.target.url.href = true → ∀ s : Session, ∃ destination,
        s.destinationOf? r = some destination ∧ Url.parse destination.uri = .ok r.target.url ∧
        Url.ofPath? r.target.path = some r.target.url ∧
        ∀ (later : Session) env disk language version text,
          let message := Message.opened destination.uri language version text
          let after := (later.handle env disk message).session
          after.documents.get? r.target.url = some (.ofText text (some language) (some version)) ∧
            ∀ other : Disk, after.documents.probe other r.target.path = .ok ()) := by
  have hnamed := Reference.named_of_resolve habs h
  refine ⟨hnamed.toPath?_eq, fun hvalid s => ?_⟩
  obtain ⟨destination, hdestination, huri⟩ := s.exists_destinationOf? hvalid
  have hparse : Url.parse destination.uri = .ok r.target.url := huri ▸ hnamed.parse_href
  refine ⟨destination, hdestination, hparse, hnamed.ofPath?_eq, ?_⟩
  intro later env disk language version text message after
  have hget : after.documents.get? r.target.url =
      some (.ofText text (some language) (some version)) := by
    rw [later.documents_opened env disk language version text hparse]
    exact Store.get?_insert_self ..
  exact ⟨hget, fun other => (Store.probe_eq_ok_iff hnamed.ofPath?_eq).2 (Or.inl ⟨_, hget⟩)⟩

/-- A name with a percent sign, a hash and a question mark, in a directory that looks like a drive.
The file is nowhere on the disk. -/
theorem Session.probe_of_opened_reported_escaped :
    let source : Source := ⟨fun n => ["new Worker('../50%/é#?%41.js')".toList][n]?,
      some (.ofString "/c:/a b"), fun _ => none⟩
    let names : List Bytes := ["c:", "50%", "é#?%41.js"].map fun name => Utf8.encode name.toList
    let r : Reference := ⟨⟨⟨0, 12⟩, ⟨0, 28⟩⟩, ⟨.ofNames names, .ofNames names⟩⟩
    let uri : Text := "file:///c:/50%25/%C3%A9%23%3F%2541.js".toList
    let env : Environment := ⟨none, none, some (.ofString "/")⟩
    let nowhere : Disk := fun _ => .error .notFound
    (resolve .script source ⟨0, 14⟩ 32 fun _ => .ok ()).reference? = some r ∧
      r.target.url.href = uri ∧ Uri.isValid uri = true ∧
      (Url.ofNames names).toPath? = some (.ofNames names) ∧
      ((fresh.handle env nowhere (.opened uri "javascript" 1 [])).session.documents.probe nowhere
        (.ofNames names)) = .ok () := by
  intro source names r uri env nowhere
  have hr : (resolve .script source ⟨0, 14⟩ 32 fun _ => .ok ()).reference? = some r := by
    decide +kernel
  have huri : r.target.url.href = uri := by decide +kernel
  have hvalid : Uri.isValid r.target.url.href = true := by decide +kernel
  obtain ⟨hpath, hopened⟩ := probe_of_opened_reported (by rintro directory ⟨⟩; decide) hr
  obtain ⟨destination, hdestination, -, -, hlater⟩ := hopened hvalid fresh
  have hplace : fresh.destinationOf? r = some (.place uri) := by decide +kernel
  obtain rfl := Option.some.inj (hplace.symm.trans hdestination)
  exact ⟨hr, huri, huri ▸ hvalid, hpath, (hlater fresh env nowhere "javascript" 1 []).2 nowhere⟩

end Signpost
