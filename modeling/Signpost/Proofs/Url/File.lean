import Mathlib.Data.List.TakeWhile
import Signpost.Proofs.Path.Plain
import Signpost.Url.File

/-!
# File URLs by their names

The file URL of a path says as much as the names of the path (`Signpost.Url.ofNames`): escaped,
a name is one segment, and the segment gives the name back. So a file URL leads back to the
path of its names (`Signpost.Url.toPath?_ofNames`), two of them are the same only if their
names are (`Signpost.Url.ofNames_injective`), and **reading the text of one gives it back**
(`Signpost.Url.parse_href_ofNames`).

The last is a walk through the reader. An escaped name holds nothing that the reader takes for
anything else: no margin, no slash, no end of a path, nothing to be escaped once more
(`Signpost.Percent.IsSafe`). And it is no step, since a step would be the name of one. Drive
letters, which are the only trouble that file URLs have of their own, do not show: the reader
sees an empty segment first, and takes no later one for a drive.
-/

namespace Signpost

/-! ### Escaped names -/

namespace Percent

/-- A character that stands for itself in a segment, wherever the segment is read. -/
structure IsSafe (c : Char) : Prop where
  /-- It is an ASCII character. -/
  ascii : c.toNat < 0x7F
  /-- It need not be escaped. -/
  unescaped : path (UInt8.ofNat c.toNat) = false
  /-- It is no slash. -/
  ne_slash : c ≠ '/'
  /-- It is not taken for a slash. -/
  ne_backslash : c ≠ '\\'

instance (c : Char) : Decidable (IsSafe c) :=
  decidable_of_iff (c.toNat < 0x7F ∧ path (UInt8.ofNat c.toNat) = false ∧ c ≠ '/' ∧ c ≠ '\\')
    ⟨fun h => ⟨h.1, h.2.1, h.2.2.1, h.2.2.2⟩, fun h => ⟨h.1, h.2, h.3, h.4⟩⟩

/-- A segment for every name: the name with the bytes escaped that a segment may not hold. -/
abbrev segmentOf (name : Bytes) : Text :=
  encodeBytes segment name

theorem forall_byte {P : UInt8 → Prop} (h : ∀ n < 256, P (UInt8.ofNat n)) (b : UInt8) : P b := by
  have hb := h b.toNat b.toNat_lt
  rwa [UInt8.ofNat_toNat] at hb

theorem segmentOf_cons (b : UInt8) (name : Bytes) :
    segmentOf (b :: name) = segmentOf [b] ++ segmentOf name := by
  simp [segmentOf, encodeBytes]

/-- **What is written for a byte is safe.** -/
theorem isSafe_of_mem_segmentOf {name : Bytes} {c : Char} (h : c ∈ segmentOf name) : IsSafe c := by
  -- there are no more than 256 bytes to look at
  have hbyte : ∀ b : UInt8, (segmentOf [b]).all (IsSafe ·) = true := by
    refine forall_byte ?_
    decide +kernel
  induction name with
  | nil => cases h
  | cons b name ih =>
    rw [segmentOf_cons] at h
    rcases List.mem_append.1 h with h | h
    · simpa using List.all_eq_true.1 (hbyte b) c h
    · exact ih h

theorem segmentOf_ne_nil {name : Bytes} (h : name ≠ []) : segmentOf name ≠ [] := by
  have hbyte : ∀ b : UInt8, segmentOf [b] ≠ [] := by
    refine forall_byte ?_
    decide +kernel
  obtain ⟨b, rest, rfl⟩ := List.exists_cons_of_ne_nil h
  rw [segmentOf_cons]
  exact List.append_ne_nil_of_left_ne_nil (hbyte b) _

theorem decodeBytes_cons {b : UInt8} (h : b.toNat ≠ 0x25) (rest : Bytes) :
    decodeBytes (b :: rest) = b :: decodeBytes rest := by
  rcases rest with _ | ⟨high, _ | ⟨low, tail⟩⟩ <;> simp [decodeBytes, h]

theorem decodeBytes_escape {high low : UInt8} {h l : Nat} (hhigh : digitValue? high = some h)
    (hlow : digitValue? low = some l) (rest : Bytes) :
    decodeBytes (0x25 :: high :: low :: rest) = UInt8.ofNat (h * 16 + l) :: decodeBytes rest := by
  rw [decodeBytes, if_pos (by decide), hhigh, hlow]

/-- A byte is written as itself, or as a `%` and its two digits. -/
theorem encode_segmentOf_byte (b : UInt8) :
    (b.toNat ≠ 0x25 ∧ Utf8.encode (segmentOf [b]) = [b]) ∨
      ∃ high low, Utf8.encode (segmentOf [b]) = [0x25, high, low] ∧
        digitValue? high = some (b.toNat / 16) ∧ digitValue? low = some (b.toNat % 16) := by
  have hdigit : ∀ n < 16, Utf8.encode [Digits.upper n] = [UInt8.ofNat (Digits.upper n).toNat] ∧
      digitValue? (UInt8.ofNat (Digits.upper n).toNat) = some n := by decide +kernel
  have hplain : ∀ b : UInt8, segment b = false →
      b.toNat ≠ 0x25 ∧ Utf8.encode [Char.ofNat b.toNat] = [b] := by
    refine forall_byte ?_
    decide +kernel
  have hb := b.toNat_lt
  rcases hsegment : segment b with _ | _
  · refine Or.inl ?_
    simpa [segmentOf, encodeBytes, hsegment] using hplain b hsegment
  · obtain ⟨hhigh, hvalue⟩ := hdigit (b.toNat / 16) (by omega)
    obtain ⟨hlow, hvalue'⟩ := hdigit (b.toNat % 16) (by omega)
    refine Or.inr ⟨_, _, ?_, hvalue, hvalue'⟩
    have hmark : Utf8.encode ['%'] = [0x25] := by decide
    have hsplit : Utf8.encode (escape b) = Utf8.encode ['%'] ++
        Utf8.encode [Digits.upper (b.toNat / 16)] ++ Utf8.encode [Digits.upper (b.toNat % 16)] := by
      simp [escape, Digits.ofByte, Utf8.encode]
    have hescape : segmentOf [b] = escape b := by simp [segmentOf, encodeBytes, hsegment]
    rw [hescape, hsplit, hmark, hhigh, hlow]
    rfl

/-- **A segment gives its name back.** -/
theorem decode_segmentOf (name : Bytes) : decode (segmentOf name) = name := by
  induction name with
  | nil => rfl
  | cons b name ih =>
    have hb := b.toNat_lt
    have hsplit : Utf8.encode (segmentOf (b :: name)) =
        Utf8.encode (segmentOf [b]) ++ Utf8.encode (segmentOf name) := by
      rw [segmentOf_cons, Utf8.encode, List.flatMap_append]
      rfl
    rw [decode, hsplit]
    -- decoding takes off exactly what was written for the first byte
    rcases encode_segmentOf_byte b with ⟨hne, hencode⟩ | ⟨high, low, hencode, hhigh, hlow⟩
    · rw [hencode, List.singleton_append, decodeBytes_cons hne]
      exact congrArg _ ih
    · have hvalue : UInt8.ofNat (b.toNat / 16 * 16 + b.toNat % 16) = b := by
        rw [Nat.div_add_mod', UInt8.ofNat_toNat]
      rw [hencode]
      refine (decodeBytes_escape hhigh hlow _).trans ?_
      rw [hvalue]
      exact congrArg _ ih

theorem IsSafe.encode {c : Char} (h : IsSafe c) :
    String.utf8EncodeChar c = [UInt8.ofNat c.toNat] := by
  have hle : c.val.toNat ≤ 0x7F := Nat.le_of_lt h.ascii
  rw [String.utf8EncodeChar]
  exact if_pos hle

/-- Safe characters are not escaped again. -/
theorem encode_path_of_safe {t : Text} (h : ∀ c ∈ t, IsSafe c) : encode path t = t := by
  induction t with
  | nil => rfl
  | cons c t ih =>
    have hc := h c List.mem_cons_self
    have hlt := hc.ascii
    have hback : Char.ofNat (c.toNat % 256) = c := by
      rw [Nat.mod_eq_of_lt (by omega), Char.ofNat_toNat]
    have htail : encode path t = t := ih fun d hd => h d (List.mem_cons_of_mem c hd)
    have hsplit : encode path (c :: t) =
        encodeBytes path [UInt8.ofNat c.toNat] ++ encode path t := by
      rw [encode, encode, Utf8.encode, List.flatMap_cons, hc.encode, encodeBytes, encodeBytes,
        List.flatMap_append, encodeBytes]
      rfl
    rw [hsplit, htail]
    simp [encodeBytes, hc.unescaped, hback]

/-- **A safe character is none that a reader looks for.** -/
theorem IsSafe.unmarked {c : Char} (h : IsSafe c) :
    Url.isMargin c = false ∧ Url.endsPath c = false ∧ Url.isIgnored c = false ∧
      Url.isSlash true c = false := by
  have hall : ∀ n < 0x7F, IsSafe (Char.ofNat n) → Url.isMargin (Char.ofNat n) = false ∧
      Url.endsPath (Char.ofNat n) = false ∧ Url.isIgnored (Char.ofNat n) = false ∧
      Url.isSlash true (Char.ofNat n) = false := by decide +kernel
  have hc := hall c.toNat h.ascii
  rw [Char.ofNat_toNat] at hc
  exact hc h

/-- The only safe characters that become a part of a step in lower case. -/
theorem IsSafe.of_toLower {c : Char} (h : IsSafe c) :
    (c.toLower = '.' → c = '.') ∧ (c.toLower = '%' → c = '%') ∧ (c.toLower = '2' → c = '2') ∧
      (c.toLower = 'e' → c = 'e' ∨ c = 'E') := by
  have hall : ∀ n < 0x7F, ((Char.ofNat n).toLower = '.' → Char.ofNat n = '.') ∧
      ((Char.ofNat n).toLower = '%' → Char.ofNat n = '%') ∧
      ((Char.ofNat n).toLower = '2' → Char.ofNat n = '2') ∧
      ((Char.ofNat n).toLower = 'e' → Char.ofNat n = 'e' ∨ Char.ofNat n = 'E') := by
    decide +kernel
  have hc := hall c.toNat h.ascii
  rwa [Char.ofNat_toNat] at hc

end Percent

/-! ### Segments -/

namespace Url

open Signpost.Tree (namesOf)
open Percent (segmentOf IsSafe)

/-- Only the step that stays reads as one. -/
theorem isSingleDot_segmentOf {name : Bytes} (h : name ≠ [Path.dot]) :
    isSingleDot (segmentOf name) = false := by
  rw [Bool.eq_false_iff]
  intro hdot
  have hsafe : ∀ c ∈ segmentOf name, IsSafe c := fun c => Percent.isSafe_of_mem_segmentOf
  refine h ?_
  rw [← Percent.decode_segmentOf name]
  generalize segmentOf name = segment at hdot hsafe
  simp only [isSingleDot, List.mem_cons, List.not_mem_nil, or_false, decide_eq_true_eq,
    List.map_eq_cons_iff, List.map_eq_nil_iff] at hdot
  rcases hdot with ⟨a, _, rfl, ha, rfl⟩ | ⟨a, _, rfl, ha, b, _, rfl, hb, c, _, rfl, hc, rfl⟩
  · obtain rfl := (hsafe a (by simp)).of_toLower.1 ha
    rfl
  · obtain rfl := (hsafe a (by simp)).of_toLower.2.1 ha
    obtain rfl := (hsafe b (by simp)).of_toLower.2.2.1 hb
    rcases (hsafe c (by simp)).of_toLower.2.2.2 hc with rfl | rfl <;> rfl

/-- Only the step up reads as one. -/
theorem isDoubleDot_segmentOf {name : Bytes} (h : name ≠ [Path.dot, Path.dot]) :
    isDoubleDot (segmentOf name) = false := by
  rw [Bool.eq_false_iff]
  intro hdots
  have hsafe : ∀ c ∈ segmentOf name, IsSafe c := fun c => Percent.isSafe_of_mem_segmentOf
  refine h ?_
  rw [← Percent.decode_segmentOf name]
  generalize segmentOf name = segment at hdots hsafe
  -- four spellings: each of the two dots stands for itself or is escaped
  simp only [isDoubleDot, List.mem_cons, List.not_mem_nil, or_false, decide_eq_true_eq,
    List.map_eq_cons_iff, List.map_eq_nil_iff] at hdots
  rcases hdots with ⟨a, _, rfl, ha, b, _, rfl, hb, rfl⟩ |
    ⟨a, _, rfl, ha, b, _, rfl, hb, c, _, rfl, hc, d, _, rfl, hd, rfl⟩ |
    ⟨a, _, rfl, ha, b, _, rfl, hb, c, _, rfl, hc, d, _, rfl, hd, rfl⟩ |
    ⟨a, _, rfl, ha, b, _, rfl, hb, c, _, rfl, hc, d, _, rfl, hd, e, _, rfl, he, f, _, rfl, hf, rfl⟩
  · obtain rfl := (hsafe a (by simp)).of_toLower.1 ha
    obtain rfl := (hsafe b (by simp)).of_toLower.1 hb
    rfl
  · obtain rfl := (hsafe a (by simp)).of_toLower.1 ha
    obtain rfl := (hsafe b (by simp)).of_toLower.2.1 hb
    obtain rfl := (hsafe c (by simp)).of_toLower.2.2.1 hc
    rcases (hsafe d (by simp)).of_toLower.2.2.2 hd with rfl | rfl <;> rfl
  · obtain rfl := (hsafe a (by simp)).of_toLower.2.1 ha
    obtain rfl := (hsafe b (by simp)).of_toLower.2.2.1 hb
    obtain rfl := (hsafe d (by simp)).of_toLower.1 hd
    rcases (hsafe c (by simp)).of_toLower.2.2.2 hc with rfl | rfl <;> rfl
  · obtain rfl := (hsafe a (by simp)).of_toLower.2.1 ha
    obtain rfl := (hsafe b (by simp)).of_toLower.2.2.1 hb
    obtain rfl := (hsafe d (by simp)).of_toLower.2.1 hd
    obtain rfl := (hsafe e (by simp)).of_toLower.2.2.1 he
    rcases (hsafe c (by simp)).of_toLower.2.2.2 hc with rfl | rfl <;>
      rcases (hsafe f (by simp)).of_toLower.2.2.2 hf with rfl | rfl <;> rfl

/-- The segments of some names; the root has an empty one. -/
def segmentsOf (names : List Bytes) : List Text :=
  if names = [] then [[]] else names.map segmentOf

/-- **The file URL of some names.** -/
def ofNames (names : List Bytes) : Url :=
  ⟨fileScheme, some .empty, '/' :: List.intercalate ['/'] (segmentsOf names), none, none⟩

/-- A segment that is read as it is written: its characters are safe, and it is no step. -/
structure IsPlain (segment : Text) : Prop where
  /-- Its characters are safe. -/
  safe : ∀ c ∈ segment, IsSafe c
  /-- It is not the step that stays. -/
  ne_dot : isSingleDot segment = false
  /-- It is not the step up. -/
  ne_dots : isDoubleDot segment = false

theorem segmentsOf_ne_nil (names : List Bytes) : segmentsOf names ≠ [] := by
  unfold segmentsOf
  split
  · simp
  · rename_i hne
    simpa using hne

theorem isPlain_of_mem_segmentsOf {names : List Bytes} (hnames : ∀ name ∈ names, Path.IsName name)
    {segment : Text} (h : segment ∈ segmentsOf names) : IsPlain segment := by
  unfold segmentsOf at h
  split at h
  · obtain rfl := List.mem_singleton.1 h
    exact ⟨by simp, rfl, rfl⟩
  · obtain ⟨name, hname, rfl⟩ := List.mem_map.1 h
    have hname' := hnames name hname
    exact ⟨fun c => Percent.isSafe_of_mem_segmentOf, isSingleDot_segmentOf hname'.ne_dot,
      isDoubleDot_segmentOf hname'.ne_dots⟩

/-- A slash in a name is escaped. -/
theorem slash_notMem_of_mem_segmentsOf {names : List Bytes} {segment : Text}
    (h : segment ∈ segmentsOf names) : '/' ∉ segment := by
  unfold segmentsOf at h
  split at h
  · obtain rfl := List.mem_singleton.1 h
    simp
  · obtain ⟨name, -, rfl⟩ := List.mem_map.1 h
    exact fun hmem => (Percent.isSafe_of_mem_segmentOf hmem).ne_slash rfl

/-- The segments of a file URL are those of its names. -/
theorem segments?_ofNames (names : List Bytes) :
    (ofNames names).segments? = some (segmentsOf names) := by
  have hsplit := List.splitOn_intercalate '/'
    (fun _ => slash_notMem_of_mem_segmentsOf) (segmentsOf_ne_nil names)
  simp [segments?, ofNames, hsplit]

/-- **The file URL of a plain path is that of its names.** -/
theorem ofPath?_of_plain {p : Path} (h : p.Plain) : ofPath? p = some (ofNames (namesOf p)) := by
  have hbytes : ((namesOf p).map Path.Component.name).map Path.Component.bytes = namesOf p := by
    simp [Function.comp_def, Path.Component.bytes]
  rw [ofPath?, if_pos h.isAbsolute, h.components_eq, List.drop_one, List.tail_cons, hbytes, ofNames,
    segmentsOf]
  split
  · rename_i hnil
    rw [hnil]
    rfl
  · rfl

/-- **A file URL leads back to the path of its names**, with a slash at its end where it would
end in a drive letter. -/
theorem toPath?_ofNames (names : List Bytes) :
    (ofNames names).toPath? = some ⟨closeDrive (Path.ofNames names).bytes⟩ := by
  have hlocal : (ofNames names).isLocal = true := rfl
  have hbytes : (segmentsOf names).flatMap (fun segment => Path.slash :: Percent.decode segment) =
      (Path.ofNames names).bytes := by
    rcases eq_or_ne names [] with rfl | hne
    · rfl
    · rw [segmentsOf, if_neg hne, List.flatMap_map]
      simp only [Percent.decode_segmentOf]
      exact (Path.bytes_ofNames hne).symm
  rw [toPath?, if_pos hlocal, segments?_ofNames, Option.map_some, hbytes]

/-! ### Reading a file URL -/

namespace Walk

/-- Reading a segment without a drive before it only remembers its characters. -/
theorem foldl_readChar {segment : Text} (hsafe : ∀ c ∈ segment, IsSafe c) {written : Text}
    (hdrive : isColonDrive (written.drop 1) = false) (start : Nat) (pending : Text)
    (drive : Bool) :
    segment.foldl (readChar true) ⟨written, start, pending, drive⟩ =
      ⟨written, start, segment.reverse ++ pending, drive⟩ := by
  induction segment generalizing pending with
  | nil => rfl
  | cons c segment ih =>
    have hignored : isIgnored c = false := (hsafe c List.mem_cons_self).unmarked.2.2.1
    have hstep : readChar true ⟨written, start, pending, drive⟩ c =
        ⟨written, start, c :: pending, drive⟩ := by
      rw [readChar, hignored]
      simp only [Bool.true_and, hdrive]
      rfl
    rw [List.foldl_cons, hstep, ih fun d hd => hsafe d (List.mem_cons_of_mem c hd)]
    simp

/-- **A plain segment is written as it is read**, once something stands before it. -/
theorem readSegment_of_isPlain {segment : Text} (h : IsPlain segment) {before : Text} {drive : Bool}
    {start : Nat} (slash : Bool) :
    readSegment true slash ⟨'/' :: '/' :: before, start, [], drive⟩ segment =
      ⟨'/' :: '/' :: before ++ segment ++ (if slash then ['/'] else []), before.length + 2, [],
        drive⟩ := by
  -- with a slash at its start, what is written so far is no drive
  have hdrive : isColonDrive (('/' :: '/' :: before).drop 1) = false := by
    have halpha : '/'.isAlpha = false := by decide
    rw [List.drop_one, List.tail_cons]
    rcases before with _ | ⟨c, _ | ⟨d, before⟩⟩ <;> simp [isColonDrive, isDriveLetter, halpha]
  have hdrop : ('/' :: '/' :: before ++ segment).drop (before.length + 2) = segment := by
    rw [List.drop_append_of_le_length (by simp)]
    simp
  have hread : segment.foldl (readChar true)
      ⟨'/' :: '/' :: before, before.length + 2, [], drive⟩ =
      ⟨'/' :: '/' :: before, before.length + 2, segment.reverse ++ [], drive⟩ :=
    foldl_readChar h.safe hdrive _ _ _
  simp only [readSegment, List.length_cons, hread, flush, List.append_nil, List.reverse_reverse,
    Percent.encode_path_of_safe h.safe, settle, hdrop, h.ne_dot, h.ne_dots]
  simp

/-- **Plain segments are written as they are read**, with slashes between them. -/
theorem readSegments_of_isPlain {segments : List Text} (h : ∀ s ∈ segments, IsPlain s)
    (hne : segments ≠ []) (before : Text) (start : Nat) :
    ∃ start', readSegments true ⟨'/' :: '/' :: before, start, [], false⟩ segments =
      ⟨'/' :: '/' :: before ++ List.intercalate ['/'] segments, start', [], false⟩ := by
  induction segments generalizing before start with
  | nil => exact absurd rfl hne
  | cons segment segments ih =>
    have hsegment := h segment List.mem_cons_self
    cases segments with
    | nil =>
      refine ⟨before.length + 2, ?_⟩
      rw [readSegments, readSegment_of_isPlain hsegment]
      simp
    | cons second segments =>
      have hrest : ∀ s ∈ second :: segments, IsPlain s :=
        fun s hs => h s (List.mem_cons_of_mem segment hs)
      obtain ⟨start', hread⟩ := ih hrest (by simp) (before ++ segment ++ ['/']) (before.length + 2)
      refine ⟨start', ?_⟩
      rw [readSegments, readSegment_of_isPlain hsegment]
      · rw [List.intercalate_cons_cons]
        simpa using hread
      · simp

end Walk

theorem splitOnP_intercalate {segments : List Text} (h : ∀ s ∈ segments, IsPlain s)
    (hne : segments ≠ []) :
    (List.intercalate ['/'] segments).splitOnP (isSlash true) = segments := by
  have hslash : isSlash true '/' = true := by decide
  have hsafe : ∀ s ∈ segments, ∀ c ∈ s, isSlash true c = false :=
    fun s hs c hc => ((h s hs).safe c hc).unmarked.2.2.2
  induction segments with
  | nil => exact absurd rfl hne
  | cons segment segments ih =>
    cases segments with
    | nil =>
      rw [List.intercalate_singleton]
      exact List.splitOnP_eq_singleton (hsafe segment List.mem_cons_self)
    | cons second segments =>
      have hrest := ih (fun s hs => h s (List.mem_cons_of_mem segment hs)) (by simp)
        fun s hs => hsafe s (List.mem_cons_of_mem segment hs)
      have hfirst := hsafe segment List.mem_cons_self
      rw [List.intercalate_cons_cons, List.append_assoc, List.singleton_append,
        List.splitOnP_append_cons_of_forall_mem hfirst '/' hslash, hrest]

/-- What stands between slashes does not start with one. -/
theorem dropWhile_intercalate_segmentsOf {names : List Bytes}
    (hnames : ∀ name ∈ names, Path.IsName name) :
    (List.intercalate ['/'] (segmentsOf names)).dropWhile (· = '/') =
      List.intercalate ['/'] (segmentsOf names) := by
  rcases eq_or_ne names [] with rfl | hne
  · rfl
  · obtain ⟨name, rest, rfl⟩ := List.exists_cons_of_ne_nil hne
    obtain ⟨c, tail, hc⟩ := List.exists_cons_of_ne_nil
      (Percent.segmentOf_ne_nil (hnames name List.mem_cons_self).ne_nil)
    have hslash : c ≠ '/' :=
      (Percent.isSafe_of_mem_segmentOf (hc ▸ List.mem_cons_self : c ∈ segmentOf name)).ne_slash
    obtain ⟨more, hmore⟩ : ∃ more,
        List.intercalate ['/'] (segmentsOf (name :: rest)) = c :: more := by
      rw [segmentsOf, if_neg hne, List.map_cons, hc]
      cases rest with
      | nil => exact ⟨tail, by simp⟩
      | cons second rest => exact ⟨_, by rw [List.map_cons, List.intercalate_cons_cons]; rfl⟩
    rw [hmore]
    simp [hslash]

/-- **The path of a file URL is normal.** -/
theorem normalPath_ofNames {names : List Bytes} (hnames : ∀ name ∈ names, Path.IsName name) :
    normalPath fileScheme true ['/'] (ofNames names).path = ((ofNames names).path, false) := by
  have hplain : ∀ s ∈ segmentsOf names, IsPlain s :=
    fun _ hs => isPlain_of_mem_segmentsOf hnames hs
  have hsplit : (ofNames names).path.splitOnP (isSlash true) = [] :: segmentsOf names := by
    have hnone : ∀ c ∈ ([] : Text), isSlash true c = false := by simp
    have hslash : isSlash true '/' = true := by decide
    have hrest := splitOnP_intercalate hplain (segmentsOf_ne_nil names)
    exact (List.splitOnP_append_cons_of_forall_mem hnone '/' hslash _).trans (by rw [hrest])
  obtain ⟨start, hread⟩ :=
    Walk.readSegments_of_isPlain hplain (segmentsOf_ne_nil names) [] 1
  -- the empty segment in front of all others is written as a slash
  have hfirst : Walk.readSegments true ⟨['/'], 1, [], false⟩ ([] :: segmentsOf names) =
      Walk.readSegments true ⟨['/', '/'], 1, [], false⟩ (segmentsOf names) := by
    obtain ⟨s, rest, hs⟩ := List.exists_cons_of_ne_nil (segmentsOf_ne_nil names)
    rw [hs]
    rfl
  have hwritten : (['/', '/'] ++ List.intercalate ['/'] (segmentsOf names)).dropWhile (· = '/') =
      List.intercalate ['/'] (segmentsOf names) := by
    rw [List.dropWhile_append_of_pos (by simp), dropWhile_intercalate_segmentsOf hnames]
  have hwalk := hfirst.trans hread
  rw [normalPath, hsplit]
  simp only [List.length_singleton, decide_true, hwalk]
  exact congrArg (fun t => ('/' :: t, false)) hwritten

/-- A path of safe characters and slashes holds nothing that ends it. -/
theorem unmarked_of_mem_path {names : List Bytes} (hnames : ∀ name ∈ names, Path.IsName name)
    {c : Char} (h : c ∈ (ofNames names).path) : isMargin c = false ∧ endsPath c = false := by
  have hinner : ∀ {segments : List Text}, (∀ s ∈ segments, IsPlain s) →
      ∀ c ∈ List.intercalate ['/'] segments, c = '/' ∨ IsSafe c := by
    intro segments hplain
    induction segments with
    | nil => simp
    | cons segment segments ih =>
      intro c hc
      cases segments with
      | nil => exact Or.inr ((hplain segment List.mem_cons_self).safe c (by simpa using hc))
      | cons second segments =>
        rw [List.intercalate_cons_cons, List.append_assoc] at hc
        rcases List.mem_append.1 hc with hc | hc
        · exact Or.inr ((hplain segment List.mem_cons_self).safe c hc)
        · rcases List.mem_cons.1 hc with rfl | hc
          · exact Or.inl rfl
          · exact ih (fun s hs => hplain s (List.mem_cons_of_mem segment hs)) c hc
  rcases List.mem_cons.1 h with rfl | h
  · decide
  · rcases hinner (fun _ hs => isPlain_of_mem_segmentsOf hnames hs) c h with rfl | hsafe
    · decide
    · exact ⟨hsafe.unmarked.1, hsafe.unmarked.2.1⟩

theorem strip_of_forall {t : Text} (h : ∀ c ∈ t, isMargin c = false) : strip t = t := by
  have hdrop : ∀ u : Text, (∀ c ∈ u, isMargin c = false) → u.dropWhile isMargin = u := by
    intro u hu
    cases u with
    | nil => rfl
    | cons c u => simp [hu c List.mem_cons_self]
  rw [strip, hdrop t h, hdrop t.reverse fun c hc => h c (List.mem_reverse.1 hc),
    List.reverse_reverse]

theorem href_ofNames (names : List Bytes) :
    (ofNames names).href =
      'f' :: 'i' :: 'l' :: 'e' :: ':' :: '/' :: '/' :: (ofNames names).path := by
  simp [href, ofNames, fileScheme, Authority.empty, Authority.text, Authority.userInfo, Host.empty,
    Host.text, pathText]

/-- **Reading the text of a file URL gives it back.** -/
theorem parse_href_ofNames {names : List Bytes} (hnames : ∀ name ∈ names, Path.IsName name) :
    parse (ofNames names).href = .ok (ofNames names) := by
  have hstrip : strip (ofNames names).href = (ofNames names).href := by
    refine strip_of_forall fun c hc => ?_
    rw [href_ofNames] at hc
    rcases List.mem_append.1 (show c ∈ "file://".toList ++ (ofNames names).path from hc)
      with hc | hc
    · have hall : "file://".toList.all (!isMargin ·) = true := by decide
      simpa using List.all_eq_true.1 hall c hc
    · exact (unmarked_of_mem_path hnames hc).1
  have hscheme : scheme? (ofNames names).href =
      some (fileScheme, '/' :: '/' :: (ofNames names).path) := by
    rw [href_ofNames]
    rfl
  have hwhole : (ofNames names).path.takeWhile (fun c => !endsPath c) = (ofNames names).path := by
    rw [List.takeWhile_eq_self_iff]
    intro c hc
    rw [(unmarked_of_mem_path hnames hc).2]
    rfl
  have hspecial : isSpecial fileScheme = true := by decide
  have hhierarchical : hierarchical fileScheme (some .empty) ['/'] (ofNames names).path =
      ofNames names := by
    rw [hierarchical]
    simp only [hwhole, List.drop_length, hspecial, normalPath_ofNames hnames]
    rfl
  rw [parse, hstrip, hscheme]
  dsimp only
  rw [if_pos rfl]
  exact congrArg Except.ok hhierarchical

end Url

end Signpost
