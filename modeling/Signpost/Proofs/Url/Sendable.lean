import Signpost.Proofs.Url.File
import Signpost.Uri

/-!
# Which file URLs are URIs

A target is named by its file URL, but an answer is sent only if that URL is also a URI. The two
grammars do not fit. Of the bytes that a segment keeps as they are, four may not stand in the path
of a URI: the brackets, the caret and the bar (`Signpost.Url.unsendable`). So **a file URL is a
URI exactly if none of these bytes is in its names** (`Signpost.Url.isValid_href_ofNames`).

The reader of URIs passes over an escape and over every other byte that a segment keeps
(`Signpost.Uri.pass_segmentOf_append`). It stops at the first of the four bytes
(`Signpost.Uri.pass_segmentOf_append_of_mem`), which begins neither a query nor a fragment, and
then there is more behind the URI than there may be.
-/

namespace Signpost

/-- **The bytes that no URI may hold, although a segment keeps them**: `[`, `]`, `^` and `|`. -/
def Url.unsendable : Bytes := [0x5B, 0x5D, 0x5E, 0x7C]

namespace Uri

open Percent (segmentOf)
open Url (unsendable)

/-! ### Passing over a path -/

/-- A character that starts no escape is passed over if it is allowed, and otherwise it is where
the reader stops. -/
theorem pass_cons (allowed : Char → Bool) {c : Char} (h : c ≠ '%') (t : Text) :
    pass allowed (c :: t) = if allowed c then pass allowed t else .ok (c :: t) := by
  rw [pass.eq_def]
  split
  · rename_i heq
    cases heq
  · rename_i heq
    exact absurd (List.cons.inj heq).1 h
  · rename_i heq
    obtain ⟨rfl, rfl⟩ := List.cons.inj heq
    rw [if_neg h]

theorem pass_escape (allowed : Char → Bool) (b : UInt8) (t : Text) :
    pass allowed (Percent.escape b ++ t) = pass allowed t := by
  have hdigit : ∀ n < 16, isHex (Digits.upper n) = true := by decide +kernel
  have hb := b.toNat_lt
  have hhigh := hdigit (b.toNat / 16) (by omega)
  have hlow := hdigit (b.toNat % 16) (by omega)
  simp [Percent.escape, Digits.ofByte, pass, hhigh, hlow]

/-- **What is written for a byte is passed over**, unless the byte is one of the four. -/
theorem pass_segmentOf_byte {b : UInt8} (h : b ∉ unsendable) (t : Text) :
    pass isPathChar (segmentOf [b] ++ t) = pass isPathChar t := by
  have hplain : ∀ b : UInt8, Percent.segment b = false → b ∉ unsendable →
      Char.ofNat b.toNat ≠ '%' ∧ isPathChar (Char.ofNat b.toNat) = true := by
    refine Percent.forall_byte ?_
    decide +kernel
  rcases hsegment : Percent.segment b with _ | _
  · obtain ⟨hmark, hallowed⟩ := hplain b hsegment h
    have hself : segmentOf [b] = [Char.ofNat b.toNat] := by
      simp [segmentOf, Percent.encodeBytes, hsegment]
    rw [hself, List.singleton_append, pass_cons _ hmark, if_pos hallowed]
  · have hescape : segmentOf [b] = Percent.escape b := by
      simp [segmentOf, Percent.encodeBytes, hsegment]
    rw [hescape]
    exact pass_escape isPathChar b t

/-- **A segment is passed over**, if none of the four bytes is in its name. -/
theorem pass_segmentOf_append {name : Bytes} (h : ∀ b ∈ name, b ∉ unsendable) (t : Text) :
    pass isPathChar (segmentOf name ++ t) = pass isPathChar t := by
  induction name with
  | nil => rfl
  | cons b name ih =>
    rw [Percent.segmentOf_cons, List.append_assoc, pass_segmentOf_byte (h b List.mem_cons_self)]
    exact ih fun d hd => h d (List.mem_cons_of_mem b hd)

/-- The characters of the four bytes. No path goes on with one of them, and neither a query nor a
fragment starts with one. -/
def stuck : Text := ['[', ']', '^', '|']

theorem ne_of_mem_stuck {c : Char} (h : c ∈ stuck) :
    c ≠ '%' ∧ isPathChar c = false ∧ c ≠ '?' ∧ c ≠ '#' := by
  simp only [stuck, List.mem_cons, List.not_mem_nil, or_false] at h
  rcases h with rfl | rfl | rfl | rfl <;> decide

theorem segmentOf_of_unsendable {b : UInt8} (h : b ∈ unsendable) :
    ∃ c ∈ stuck, segmentOf [b] = [c] := by
  simp only [unsendable, List.mem_cons, List.not_mem_nil, or_false] at h
  rcases h with rfl | rfl | rfl | rfl
  · exact ⟨'[', by decide, by decide +kernel⟩
  · exact ⟨']', by decide, by decide +kernel⟩
  · exact ⟨'^', by decide, by decide +kernel⟩
  · exact ⟨'|', by decide, by decide +kernel⟩

/-- **One of the four bytes is not passed over.** -/
theorem pass_segmentOf_append_of_mem {name : Bytes} (h : ∃ b ∈ name, b ∈ unsendable) (t : Text) :
    ∃ c ∈ stuck, ∃ rest, pass isPathChar (segmentOf name ++ t) = .ok (c :: rest) := by
  induction name with
  | nil => simp at h
  | cons b name ih =>
    rw [Percent.segmentOf_cons, List.append_assoc]
    by_cases hb : b ∈ unsendable
    · obtain ⟨c, hc, hself⟩ := segmentOf_of_unsendable hb
      obtain ⟨hmark, hallowed, -, -⟩ := ne_of_mem_stuck hc
      rw [hself, List.singleton_append, pass_cons _ hmark, if_neg (by simp [hallowed])]
      exact ⟨c, hc, _, rfl⟩
    · rw [pass_segmentOf_byte hb]
      exact ih (by simpa [hb] using h)

/-- The names of a path are passed over, up to the first that holds one of the four bytes. -/
theorem pass_names (names : List Bytes) :
    (pass isPathChar (names.flatMap fun name => '/' :: segmentOf name) = .ok [] ∧
      ∀ name ∈ names, ∀ b ∈ name, b ∉ unsendable) ∨
    (∃ c ∈ stuck, ∃ rest,
      pass isPathChar (names.flatMap fun name => '/' :: segmentOf name) = .ok (c :: rest)) ∧
      ∃ name ∈ names, ∃ b ∈ name, b ∈ unsendable := by
  induction names with
  | nil => exact Or.inl ⟨rfl, by simp⟩
  | cons name names ih =>
    have hslash : ∀ t : Text, pass isPathChar ('/' :: t) = pass isPathChar t :=
      pass_cons isPathChar (by decide)
    rw [List.flatMap_cons, List.cons_append, hslash]
    by_cases hname : ∃ b ∈ name, b ∈ unsendable
    · exact Or.inr ⟨pass_segmentOf_append_of_mem hname _, name, List.mem_cons_self, hname⟩
    · have hname' : ∀ b ∈ name, b ∉ unsendable := fun b hb hmem => hname ⟨b, hb, hmem⟩
      rw [pass_segmentOf_append hname']
      rcases ih with ⟨hpass, hall⟩ | ⟨hpass, other, hother, hbad⟩
      · refine Or.inl ⟨hpass, fun other hother => ?_⟩
        rcases List.mem_cons.1 hother with rfl | hother
        · exact hname'
        · exact hall other hother
      · exact Or.inr ⟨hpass, other, List.mem_cons_of_mem name hother, hbad⟩

/-! ### The text of a file URL -/

/-- **Of a file URL, only the path decides**: where the reader stops in it, it must be at the end,
or a query or a fragment must start. -/
theorem whole_file {path rest : Text} (h : path.head? = some '/')
    (hpass : pass isPathChar path = .ok rest) :
    whole ('f' :: 'i' :: 'l' :: 'e' :: ':' :: '/' :: '/' :: path) =
      (marked '?' rest).bind fun t => (marked '#' t).bind fun t =>
        if t = [] then .ok [] else .error ⟨.unexpected, t⟩ := by
  obtain ⟨more, rfl⟩ : ∃ more, path = '/' :: more := by
    cases path with
    | nil => cases h
    | cons c more => exact ⟨more, by simpa using h⟩
  have hscheme : scheme ('f' :: 'i' :: 'l' :: 'e' :: ':' :: '/' :: '/' :: '/' :: more) =
      .ok ('/' :: '/' :: '/' :: more) := rfl
  -- there is no host
  have hauthority : authority ('/' :: more) = .ok ('/' :: more) := by
    have huser : pass isUserChar ('/' :: more) = .ok ('/' :: more) :=
      pass_cons isUserChar (by decide) more
    simp [authority, huser, bind, Except.bind, pure, Except.pure]
  have hhierarchy : hierarchy ('/' :: '/' :: '/' :: more) = .ok rest := by
    simp [hierarchy, hauthority, hpass, bind, Except.bind, pure, Except.pure]
  simp only [whole, hscheme, hhierarchy, bind, Except.bind]
  cases marked '?' rest with
  | error stop => rfl
  | ok t =>
    dsimp only
    cases marked '#' t with
    | error stop => rfl
    | ok t => cases t <;> rfl

end Uri

namespace Url

open Percent (segmentOf)

theorem path_ofNames {names : List Bytes} (hne : names ≠ []) :
    (ofNames names).path = names.flatMap fun name => '/' :: segmentOf name := by
  obtain ⟨name, rest, rfl⟩ := List.exists_cons_of_ne_nil hne
  rw [ofNames, segmentsOf, if_neg hne, List.map_cons, Path.intercalate_cons_eq_append,
    List.flatMap_map]
  rfl

/-- **A file URL is a URI exactly if none of the four bytes is in its names.** -/
theorem isValid_href_ofNames (names : List Bytes) :
    Uri.isValid (ofNames names).href = true ↔ ∀ name ∈ names, ∀ b ∈ name, b ∉ unsendable := by
  rcases eq_or_ne names [] with rfl | hne
  · simp
    decide +kernel
  rw [Uri.isValid, href_ofNames]
  rcases Uri.pass_names names with ⟨hpass, hall⟩ | ⟨⟨c, hc, rest, hpass⟩, name, hname, b, hb, hbad⟩
  · rw [← path_ofNames hne] at hpass
    rw [Uri.whole_file rfl hpass]
    exact iff_of_true rfl hall
  · -- no query and no fragment starts where the reader is stuck
    obtain ⟨-, -, hquery, hfragment⟩ := Uri.ne_of_mem_stuck hc
    rw [← path_ofNames hne] at hpass
    rw [Uri.whole_file rfl hpass]
    refine iff_of_false ?_ fun hall => hall name hname b hb hbad
    simp [Except.bind, Uri.marked, hquery, hfragment]

/-- **The URL of a clean path is a URI exactly if none of the four bytes is in the path.** -/
theorem isValid_href_clean {p : Path} {url : Url} (h : p.isAbsolute = true)
    (hurl : ofPath? p.clean = some url) :
    Uri.isValid url.href = true ↔ ∀ b ∈ p.clean.bytes, b ∉ unsendable := by
  obtain ⟨names, hnames, hclean⟩ := Path.clean_eq_ofNames h
  obtain ⟨hplain, hsame⟩ := Path.plain_ofNames hnames
  rw [hclean, ofPath?_of_plain hplain, hsame, Option.some.injEq] at hurl
  rw [← hurl, isValid_href_ofNames, hclean]
  have hslash : Path.slash ∉ unsendable := by decide
  rcases eq_or_ne names [] with rfl | hne
  · simpa [Path.ofNames] using hslash
  · rw [Path.bytes_ofNames hne]
    simp only [List.mem_flatMap, List.mem_cons]
    constructor
    · rintro hall b ⟨name, hname, rfl | hb⟩
      · exact hslash
      · exact hall name hname b hb
    · intro hall name hname b hb
      exact hall b ⟨name, hname, Or.inr hb⟩

end Url

end Signpost
