import Mathlib.Data.List.Infix
import Signpost.Document.Basic
import Signpost.Proofs.Path.Names

/-!
# What a lookup finds

A lookup that finds something says three things at once: the reference is relative
(`Signpost.Target.Relative`), the probe accepts the clean path that it leads to, and that path
has a file URL. `Signpost.Lookup.target?_run_eq_some_iff` is the equivalence, and
`Signpost.Attempt.reference?_lookUp_eq_some_iff` the same one step further out, where the
directory is that of a document.

The last of the three is no condition for a document with a directory. A URL names an absolute
path or none (`Signpost.Url.isAbsolute_directory?`), absolute paths stay absolute when they are
joined and cleaned, and every absolute path has a file URL – so there
(`Signpost.Lookup.target?_run_of_probe`) the probe alone decides. And it is asked about nothing
but that path: `Signpost.resolve_congr`.
-/

namespace Signpost

/-! ### References -/

theorem Text.occursIn_iff {needle t : Text} : occursIn needle t = true ↔ needle <:+: t := by
  induction t with
  | nil => simp [occursIn]
  | cons c t ih =>
    rw [occursIn, Bool.or_eq_true, List.isPrefixOf_iff_prefix, ih, List.infix_cons_iff]

/-- The first byte of a character beyond ASCII is beyond ASCII. -/
theorem Utf8.head?_encodeChar_eq_slash {c : Char} :
    (String.utf8EncodeChar c).head? = some Path.slash ↔ c = '/' := by
  refine ⟨fun h => ?_, ?_⟩
  · have hbyte : ∀ n : Nat, some (UInt8.ofNat n) = some Path.slash → n % 256 = 0x2F := by
      intro n hn
      simpa [Path.slash] using congrArg UInt8.toNat (Option.some.inj hn)
    refine Char.ext (UInt32.toNat_inj.1 ?_)
    show c.val.toNat = 0x2F
    unfold String.utf8EncodeChar at h
    dsimp only at h
    -- the first bytes of longer encodings start at 0xC0
    split at h
    · have hmod := hbyte _ h
      omega
    · split at h
      · have hmod := hbyte _ h
        omega
      · split at h
        · have hmod := hbyte _ h
          omega
        · have hmod := hbyte _ h
          omega
  · rintro rfl
    rfl

/-- A text names a path from the root exactly if it starts with a slash. -/
theorem Path.isAbsolute_ofText {t : Text} :
    (Path.ofText t).isAbsolute = true ↔ t.head? = some '/' := by
  cases t with
  | nil => simp [ofText, isAbsolute, Utf8.encode]
  | cons c t =>
    have hne : String.utf8EncodeChar c ≠ [] := String.utf8EncodeChar_ne_nil
    have hhead : (Utf8.encode (c :: t)).head? = (String.utf8EncodeChar c).head? := by
      rw [Utf8.encode, List.flatMap_cons, List.head?_append_of_ne_nil _ hne]
    rw [isAbsolute, ofText, hhead, beq_iff_eq, Utf8.head?_encodeChar_eq_slash]
    simp

namespace Target

/-- **A relative reference**: it is not empty, does not start at the root, and does not look
like a URL. -/
structure Relative (reference : Text) : Prop where
  /-- It is not empty. -/
  ne_nil : reference ≠ []
  /-- It does not start at the root. -/
  not_rooted : reference.head? ≠ some '/'
  /-- Nothing in it divides a scheme from a host. -/
  no_scheme : ¬ schemeMark <:+: reference

/-- **Relative references have a candidate, and no others do.** -/
theorem candidate?_eq_some_iff {directory path : Path} {reference : Text} :
    candidate? directory reference = some path ↔
      Relative reference ∧ path = (directory.join (.ofText reference)).clean := by
  unfold candidate?
  split
  · rename_i h
    refine ⟨nofun, ?_⟩
    rintro ⟨hrel, -⟩
    rcases Bool.or_eq_true_iff.1 h with h | h
    · exact absurd (List.isEmpty_iff.1 h) hrel.ne_nil
    · exact absurd (Text.occursIn_iff.1 h) hrel.no_scheme
  · rename_i h
    obtain ⟨hempty, hmark⟩ : reference ≠ [] ∧ ¬ schemeMark <:+: reference := by
      simpa [← Text.occursIn_iff] using h
    dsimp only
    split
    · rename_i habs
      refine ⟨nofun, ?_⟩
      rintro ⟨hrel, -⟩
      exact absurd (Path.isAbsolute_ofText.1 habs) hrel.not_rooted
    · rename_i habs
      have hrel : Relative reference :=
        ⟨hempty, fun hhead => habs (Path.isAbsolute_ofText.2 hhead), hmark⟩
      rw [Option.some.injEq, and_iff_right hrel, eq_comm]

end Target

/-! ### Files have absolute paths -/

namespace Url

/-- Closing a drive adds a slash or nothing. -/
theorem closeDrive_eq (bytes : Bytes) :
    closeDrive bytes = bytes ∨ closeDrive bytes = bytes ++ [Path.slash] := by
  unfold closeDrive
  split
  · split
    · exact Or.inr rfl
    · exact Or.inl rfl
  · exact Or.inl rfl

/-- **A URL names an absolute path or none.** -/
theorem isAbsolute_toPath? {u : Url} {p : Path} (h : u.toPath? = some p) :
    p.isAbsolute = true := by
  unfold toPath? at h
  split at h
  · obtain ⟨segments, hsegments, rfl⟩ := Option.map_eq_some_iff.1 h
    -- a path of slash and rest has at least one segment, if only an empty one
    obtain ⟨first, more, rfl⟩ : ∃ first more, segments = first :: more := by
      unfold segments? at hsegments
      split at hsegments
      · obtain rfl := Option.some.inj hsegments
        exact List.exists_cons_of_ne_nil (List.splitOn_ne_nil _ _)
      · cases hsegments
    rw [List.flatMap_cons, List.cons_append]
    rcases closeDrive_eq (Path.slash :: (Percent.decode first ++
        more.flatMap fun segment => Path.slash :: Percent.decode segment)) with hclose | hclose
    · rw [hclose]
      rfl
    · rw [hclose]
      rfl
  · cases h

theorem isAbsolute_directory? {u : Url} {directory : Path} (h : u.directory? = some directory) :
    directory.isAbsolute = true := by
  obtain ⟨p, hp, hparent⟩ := Option.bind_eq_some_iff.1 h
  exact Path.isAbsolute_parent? (isAbsolute_toPath? hp) hparent

theorem exists_ofPath? {p : Path} (h : p.isAbsolute = true) : ∃ u, ofPath? p = some u := by
  rw [ofPath?, if_pos h]
  exact ⟨_, rfl⟩

end Url

/-! ### Lookups -/

namespace Lookup

/-- **What a lookup finds**: the reference is relative, its clean path is one that the probe
accepts, and the URL is the file URL of that path. -/
theorem target?_run_eq_some_iff {probe : Probe} {directory : Path} {reference : Text}
    {target : Target} :
    (run probe directory reference).target? = some target ↔
      Target.Relative reference ∧ target.path = (directory.join (.ofText reference)).clean ∧
        probe target.path = .ok () ∧ Url.ofPath? target.path = some target.url := by
  rw [run]
  rcases hcandidate : Target.candidate? directory reference with _ | path
  · refine ⟨nofun, ?_⟩
    rintro ⟨hrel, hpath, -⟩
    rw [Target.candidate?_eq_some_iff.2 ⟨hrel, hpath⟩] at hcandidate
    cases hcandidate
  · obtain ⟨hrel, rfl⟩ := Target.candidate?_eq_some_iff.1 hcandidate
    constructor
    · intro h
      rcases hprobe : probe (directory.join (.ofText reference)).clean with e | ⟨⟩
      · simp [hprobe, target?] at h
      · rcases hurl : Url.ofPath? (directory.join (.ofText reference)).clean with _ | url
        · simp [hprobe, hurl, target?] at h
        · obtain rfl : Target.mk _ url = target := by simpa [hprobe, hurl, target?] using h
          exact ⟨hrel, rfl, hprobe, hurl⟩
    · rintro ⟨-, hpath, hprobe, hurl⟩
      rw [← hpath]
      simp [hprobe, hurl, target?]

/-- In an absolute directory the probe alone decides about a relative reference. -/
theorem target?_run_of_probe {probe : Probe} {directory : Path} {reference : Text}
    (habs : directory.isAbsolute = true) (hrel : Target.Relative reference)
    (hprobe : probe (directory.join (.ofText reference)).clean = .ok ()) :
    ∃ target, target.path = (directory.join (.ofText reference)).clean ∧
      Url.ofPath? target.path = some target.url ∧
      (run probe directory reference).target? = some target := by
  obtain ⟨url, hurl⟩ := Url.exists_ofPath?
    (Path.isAbsolute_clean (Path.isAbsolute_join habs (.ofText reference)))
  exact ⟨⟨_, url⟩, rfl, hurl, target?_run_eq_some_iff.2 ⟨hrel, rfl, hprobe, hurl⟩⟩

/-- Of a probe only the answer about the candidate counts. -/
theorem run_congr {probe probe' : Probe} {directory : Path} {reference : Text}
    (h : ∀ path, Target.candidate? directory reference = some path → probe path = probe' path) :
    run probe directory reference = run probe' directory reference := by
  unfold run
  split
  · rfl
  · rename_i path hpath
    rw [h path hpath]

end Lookup

theorem Attempt.reference?_lookUp_eq_some_iff {source : Source} {probe : Probe} {origin : Range}
    {reference : Text} {r : Reference} :
    (lookUp source probe origin reference).reference? = some r ↔
      r.origin = origin ∧ ∃ directory, source.directory = some directory ∧
        (Lookup.run probe directory reference).target? = some r.target := by
  rw [lookUp]
  rcases hdirectory : source.directory with _ | directory
  · simp [reference?]
  · rw [reference?, Option.map_eq_some_iff]
    constructor
    · rintro ⟨target, htarget, rfl⟩
      exact ⟨rfl, directory, rfl, htarget⟩
    · rintro ⟨rfl, directory', hsame, htarget⟩
      obtain rfl := Option.some.inj hsame
      exact ⟨r.target, htarget, rfl⟩

end Signpost
