import Signpost.Proofs.Text.Fronts
import Signpost.Proofs.Token.Construction
import Signpost.Proofs.Token.Passage

/-!
# An include can be given another path

A cursor stands on the path of an include, and the path is replaced by another one: the text
is edited where the include was found, and then the line is read anew. The include is found in
the same place, with the new path (`Signpost.Include.at?_retarget`), whatever else is on its
line.

That is not obvious, because a path ends at the first closing part and may hold anything else:
an include that was opened earlier on the line and never closed would swallow this one. What
saves it is that **a `<` stops everything but a path**. No opening part and no closing part
runs across one (`Signpost.Include.opening?_append`, `Signpost.Include.closing?_append`), and
a path that runs across one ends where it would end if it started there
(`Signpost.Include.path?_append`). So an earlier opening part would have taken the closing part
of the include for its own, and no include would have been found here in the first place. The
places before the include are therefore read as before, whatever its path is.
-/

namespace Signpost

namespace Text

/-! ### A character that stops -/

theorem skip?_append_cons {literal : Text} {c : Char} (h : c ∉ literal) (b t : Text) :
    skip? literal (b ++ c :: t) = (skip? literal b).map (· ++ c :: t) := by
  induction literal generalizing b with
  | nil => rfl
  | cons l literal ih =>
    rw [List.mem_cons, not_or] at h
    cases b with
    | nil => simp [skip?, Ne.symm h.1]
    | cons d b =>
      by_cases hd : l = d
      · simpa [skip?, hd] using ih h.2 b
      · simp [skip?, hd]

theorem trimStart_append_cons {c : Char} (h : isBlank c = false) (b t : Text) :
    trimStart (b ++ c :: t) = trimStart b ++ c :: t := by
  induction b with
  | nil => exact trimStart_cons h t
  | cons d b ih =>
    by_cases hd : isBlank d = true
    · simpa [trimStart, hd] using ih
    · simp [trimStart, hd]

theorem takeWhile_append_cons {c : Char} (h : isBlank c = false) (b t : Text) :
    (b ++ c :: t).takeWhile isBlank = b.takeWhile isBlank := by
  induction b with
  | nil => simp [h]
  | cons d b ih =>
    by_cases hd : isBlank d = true
    · simpa [hd] using ih
    · simp [hd]

theorem takeWhile_append_of_blank {a : Text} (ha : Blank a) {c : Char} (h : isBlank c = false)
    (t : Text) : (a ++ c :: t).takeWhile isBlank = a := by
  rw [takeWhile_append_cons h, List.takeWhile_eq_self_iff]
  exact ha

end Text

namespace Include

/-- An opening part is opened by the first character of a text, and nothing in it runs across
another `<`. -/
theorem opening?_append {b : Text} (hb : b ≠ []) (t : Text) :
    opening? (b ++ '<' :: t) = (opening? b).map fun (opening, u) => (opening, u ++ '<' :: t) := by
  obtain ⟨c, b, rfl⟩ := List.exists_cons_of_ne_nil hb
  have hskip : Text.skip? commentStart (c :: b ++ '<' :: t) =
      (Text.skip? commentStart (c :: b)).map (· ++ '<' :: t) := by
    by_cases hc : '<' = c
    · subst hc
      simpa [commentStart, Text.skip?] using
        Text.skip?_append_cons (by decide : '<' ∉ ['!', '-', '-']) b t
    · simp [commentStart, Text.skip?, hc]
  have hblank : Text.isBlank '<' = false := by decide
  rw [opening?, opening?, hskip]
  rcases Text.skip? commentStart (c :: b) with _ | u
  · rfl
  · simp only [Option.map_some, Option.bind_eq_bind, Option.bind_some,
      Text.trimStart_append_cons hblank, Text.takeWhile_append_cons hblank,
      Text.skip?_append_cons (by decide : '<' ∉ braces)]
    cases Text.skip? braces u.trimStart <;> rfl

/-- **No closing part runs across a `<`.** -/
theorem closing?_append (b t : Text) : closing? (b ++ '<' :: t) = closing? b := by
  have hblank : Text.isBlank '<' = false := by decide
  simp only [closing?, Text.trimStart_append_cons hblank, Text.takeWhile_append_cons hblank,
    Text.skip?_append_cons (by decide : '<' ∉ closingBraces)]
  rcases Text.skip? closingBraces b.trimStart with _ | u
  · rfl
  · simp only [Option.map_some, Option.bind_eq_bind, Option.bind_some,
      Text.trimStart_append_cons hblank, Text.takeWhile_append_cons hblank,
      Text.skip?_append_cons (by decide : '<' ∉ commentStop)]
    cases Text.skip? commentStop u.trimStart <;> rfl

/-- **A path that runs across a `<`** ends where a path that starts there would end. -/
theorem path?_append {b : Text} (hb : '\n' ∉ b) (t : Text) :
    path? (b ++ '<' :: t) =
      (path? b).or ((path? ('<' :: t)).map fun (path, closing) => (b ++ path, closing)) := by
  induction b with
  | nil =>
    change path? ('<' :: t) = (path? ('<' :: t)).map id
    rw [Option.map_id_fun, id]
  | cons c b ih =>
    rw [List.mem_cons, not_or] at hb
    have hc : c ≠ '\n' := Ne.symm hb.1
    rw [List.cons_append, path?, path?, if_neg hc, if_neg hc, closing?_append]
    rcases closing? b with _ | closing
    · simp only
      rw [ih hb.2]
      rcases path? b with _ | ⟨path, closing⟩
      · cases path? ('<' :: t) <;> rfl
      · rfl
    · rfl

/-! ### Includes before a `<` -/

/-- Where there is something in front of a closing part, there is a path. -/
theorem isSome_path? {b rest closing : Text} (hne : b ≠ []) (hb : '\n' ∉ b)
    (h : closing? rest = some closing) : (path? (b ++ rest)).isSome := by
  induction b with
  | nil => exact absurd rfl hne
  | cons c b ih =>
    rw [List.mem_cons, not_or] at hb
    rw [List.cons_append, path?, if_neg (Ne.symm hb.1)]
    rcases hrest : closing? (b ++ rest) with _ | closing'
    · have hb' : b ≠ [] := by
        rintro rfl
        rw [List.nil_append, h] at hrest
        cases hrest
      simpa using ih hb' hb.2
    · rfl

/-- **What is found at a place before a `<`** from where a path could be closed: nothing, unless
an include is opened before the `<`. Its path is closed before the `<` if it can be. -/
theorem recognise_append {b t path closing : Text} (hb : b ≠ []) (hfeed : '\n' ∉ b)
    (hpath : path? ('<' :: t) = some (path, closing)) :
    recognise (b ++ '<' :: t) = (opening? b).map fun (opening, u) =>
      match path? u.trimStart with
      | some (path', closing') => ⟨opening ++ u.takeWhile Text.isBlank, path', closing'⟩
      | none => ⟨opening ++ u.takeWhile Text.isBlank, u.trimStart ++ path, closing⟩ := by
  have hblank : Text.isBlank '<' = false := by decide
  rw [recognise, opening?_append hb]
  rcases ho : opening? b with _ | ⟨opening, u⟩
  · rfl
  · have hu : '\n' ∉ u.trimStart := by
      have hsuffix : u.trimStart <:+ b := by
        rw [(opening?_eq_some ho).1]
        exact (List.dropWhile_suffix _).trans (List.suffix_append opening u)
      exact fun hmem => hfeed (hsuffix.subset hmem)
    simp only [Option.map_some, Option.bind_eq_bind, Option.bind_some,
      Text.trimStart_append_cons hblank, Text.takeWhile_append_cons hblank, path?_append hu, hpath]
    cases path? u.trimStart <;> rfl

/-- Whether an include is found at a place before a `<` does not depend on what follows it, as
long as a path could be closed there. -/
theorem recognise_append_eq_none {b t t' : Text} (hb : b ≠ []) (hfeed : '\n' ∉ b)
    (hpath : (path? ('<' :: t)).isSome) (hpath' : (path? ('<' :: t')).isSome)
    (h : recognise (b ++ '<' :: t) = none) : recognise (b ++ '<' :: t') = none := by
  obtain ⟨⟨path, closing⟩, hpath⟩ := Option.isSome_iff_exists.1 hpath
  obtain ⟨⟨path', closing'⟩, hpath'⟩ := Option.isSome_iff_exists.1 hpath'
  rw [recognise_append hb hfeed hpath, Option.map_eq_none_iff] at h
  rw [recognise_append hb hfeed hpath', h]
  rfl

/-- **An include that ends before a `<`** does not depend on what follows it. -/
theorem recognise_append_eq_some {e : Enclosed} {b t t' : Text} (hfeed : '\n' ∉ e.text ++ b)
    (hpath : (path? ('<' :: t)).isSome) (hpath' : (path? ('<' :: t')).isSome)
    (h : recognise (e.text ++ b ++ '<' :: t) = some e) :
    recognise (e.text ++ b ++ '<' :: t') = some e := by
  obtain ⟨⟨path, closing⟩, hpath⟩ := Option.isSome_iff_exists.1 hpath
  obtain ⟨⟨path', closing'⟩, hpath'⟩ := Option.isSome_iff_exists.1 hpath'
  have hne : e.text ++ b ≠ [] := by
    have hcontent := (recognise_eq_some h).2.1
    simp [Enclosed.text, hcontent]
  rw [recognise_append hne hfeed hpath] at h
  rw [recognise_append hne hfeed hpath']
  obtain ⟨⟨opening, u⟩, ho, he⟩ := Option.map_eq_some_iff.1 h
  rw [ho, Option.map_some]
  rcases hu : path? u.trimStart with _ | ⟨path₁, closing₁⟩
  · -- an include that is closed behind the `<` would be longer than what stands before it
    exfalso
    have hsplit : e.text ++ b = opening ++ u := (opening?_eq_some ho).1
    have hu' := Text.takeWhile_append_trimStart u
    have hnonempty := List.length_pos_iff.2 (path?_eq_some hpath).1
    simp only [hu] at he
    have hlength := congrArg List.length hsplit
    rw [← hu', ← he] at hlength
    simp only [Enclosed.text, List.length_append] at hlength
    omega
  · simp only [hu] at he ⊢
    rw [he]

/-! ### The parts of an include -/

/-- The last blank of a line is taken for a path only if nothing follows it but line feeds. -/
theorem blankPath?_behind {blanks before path behind : Text} (hfeed : '\n' ∉ blanks)
    (h : blankPath? blanks = some (before, path, behind)) : behind = [] := by
  have hkept : blanks.reverse.dropWhile (· = '\n') = blanks.reverse := by
    cases hblanks : blanks.reverse with
    | nil => rfl
    | cons c rest =>
      have hc : c ≠ '\n' := by
        rintro rfl
        exact hfeed (List.mem_reverse.1 (hblanks ▸ List.mem_cons_self))
      simp [hc]
  rw [blankPath?, hkept] at h
  split at h
  · cases h
  · rename_i c rest hblanks
    obtain ⟨-, -, rfl⟩ : rest.reverse = before ∧ [c] = path ∧
        blanks.drop (rest.length + 1) = behind := by simpa using h
    have hlength := congrArg List.length hblanks
    rw [List.length_reverse, List.length_cons] at hlength
    exact List.drop_eq_nil_of_le (Nat.le_of_eq hlength)

/-- **The two ends of an include**, if it is all on one line: what opens it, and what closes it
from behind its path on. -/
theorem ends_of_recognise {e : Enclosed} {back : Text} (hfeed : '\n' ∉ e.text)
    (h : recognise (e.text ++ back) = some e) :
    (∃ blanks blanks', Text.Blank blanks ∧ Text.Blank blanks' ∧
        e.opening = commentStart ++ blanks ++ braces ++ blanks') ∧
      closing? (e.closing ++ back) = some e.closing := by
  obtain ⟨opening, u, ho, hread⟩ := recognise_cases h
  obtain ⟨ht, blanks, hblanks, rfl⟩ := opening?_eq_some ho
  have hu := Text.takeWhile_append_trimStart u
  have hu' := Text.blank_takeWhile u
  rcases hread with ⟨path, closing, hp, rfl⟩ | ⟨before, path, behind, closing, -, hc, hb, rfl⟩
  · obtain ⟨-, rest, hbody, hrest⟩ := path?_eq_some hp
    refine ⟨⟨blanks, _, hblanks, hu', rfl⟩, ?_⟩
    rw [hbody] at hu
    have hsame : closing ++ back = rest := by
      simpa [Enclosed.text] using ht.trans (congrArg _ hu.symm)
    rw [hsame, hrest]
  · obtain ⟨-, hsplit⟩ := blankPath?_eq_some hb
    rw [hsplit] at hu hu'
    have hbefore := (Text.blank_append_iff.1 (Text.blank_append_iff.1 hu').1).1
    -- all of the white space is on the line, so nothing stands behind the path
    obtain rfl : behind = [] := by
      refine blankPath?_behind (fun hmem => hfeed ?_) hb
      rw [hsplit] at hmem
      simp only [Enclosed.text, List.mem_append] at hmem ⊢
      tauto
    refine ⟨⟨blanks, before, hblanks, hbefore, rfl⟩, ?_⟩
    have hsame : closing ++ back = u.trimStart := by
      simpa [Enclosed.text] using ht.trans (congrArg _ hu.symm)
    rw [List.nil_append, hsame, hc]

theorem recognise_delimited : Recogniser.Delimited recognise := by
  intro t e h
  obtain ⟨blanks, blanks', back, -, -, hclosing⟩ := (recognise_eq_some h).2.2.2 []
  rintro hnil
  rw [hnil] at hclosing
  simp [closingBraces] at hclosing

/-! ### Writing a path into an include -/

/-- **A path that can be written into an include**: it is not empty, has no white space at either
end, and holds neither a brace that could close the include nor a line feed. -/
structure IsWritable (path : Text) : Prop where
  /-- It is not empty. -/
  ne_nil : path ≠ []
  /-- It does not start with white space. -/
  head_ne : path.head?.any Text.isBlank = false
  /-- It does not end with white space. -/
  last_ne : path.getLast?.any Text.isBlank = false
  /-- No brace closes the include. -/
  brace_notMem : '}' ∉ path
  /-- It is on one line. -/
  feed_notMem : '\n' ∉ path

/-- Nothing is closed before a character that is neither white space nor a brace. -/
theorem closing?_append_of_last {b : Text} (hne : b ≠ [])
    (hlast : b.getLast?.any Text.isBlank = false) (hbrace : '}' ∉ b) (rest : Text) :
    closing? (b ++ rest) = none := by
  rcases h : closing? (b ++ rest) with _ | closing
  · rfl
  obtain ⟨blanks, blanks', back, hblanks, -, rfl, hb⟩ := closing?_eq_some h
  have hcut : b ++ rest = blanks ++ '}' :: ('}' :: blanks' ++ commentStop ++ back) := by
    simpa [closingBraces] using hb
  -- the first brace is in `b`, or `b` is part of the white space before it
  rcases Construction.append_eq_append_cons hcut with ⟨b', rfl, -⟩ | ⟨x, rfl, -⟩
  · exact absurd (by simp) hbrace
  · obtain ⟨front, c, rfl⟩ := b.eq_nil_or_concat'.resolve_left hne
    have hc : Text.isBlank c = true := hblanks c (by simp)
    simp [hc] at hlast

/-- **A path ends where it was written to its end.** -/
theorem path?_append_of_last {path rest closing : Text} (hne : path ≠ [])
    (hlast : path.getLast?.any Text.isBlank = false) (hbrace : '}' ∉ path) (hfeed : '\n' ∉ path)
    (h : closing? rest = some closing) : path? (path ++ rest) = some (path, closing) := by
  induction path with
  | nil => exact absurd rfl hne
  | cons c path ih =>
    rw [List.mem_cons, not_or] at hbrace hfeed
    rw [List.cons_append, path?, if_neg (Ne.symm hfeed.1)]
    rcases eq_or_ne path [] with rfl | hne'
    · rw [List.nil_append, h]
    · have hlast' : path.getLast?.any Text.isBlank = false := by
        rwa [← List.singleton_append, List.getLast?_append_of_ne_nil _ hne'] at hlast
      rw [closing?_append_of_last hne' hlast' hbrace.2, ih hne' hlast' hbrace.2 hfeed.2]
      rfl

theorem opening?_written {blanks : Text} (h : Text.Blank blanks) (u : Text) :
    opening? (commentStart ++ blanks ++ braces ++ u) =
      some (commentStart ++ blanks ++ braces, u) := by
  have hbrace : Text.isBlank '{' = false := by decide
  have hstart : Text.skip? commentStart (commentStart ++ blanks ++ braces ++ u) =
      some (blanks ++ '{' :: '{' :: u) := Text.skip?_eq_some_iff.2 (by simp [braces])
  have hbraces : Text.skip? braces ('{' :: '{' :: u) = some u :=
    Text.skip?_eq_some_iff.2 (by simp [braces])
  rw [opening?, hstart]
  simp only [Option.bind_eq_bind, Option.bind_some, Text.trimStart_append_of_blank h,
    Text.trimStart_cons hbrace, Text.takeWhile_append_of_blank h hbrace, hbraces]
  rfl

/-- **An include that is written is read.** -/
theorem recognise_written {blanks blanks' path rest closing : Text} (hblanks : Text.Blank blanks)
    (hblanks' : Text.Blank blanks') (hpath : IsWritable path) (h : closing? rest = some closing) :
    recognise (commentStart ++ blanks ++ braces ++ blanks' ++ path ++ rest) =
      some ⟨commentStart ++ blanks ++ braces ++ blanks', path, closing⟩ := by
  have hread := path?_append_of_last hpath.ne_nil hpath.last_ne hpath.brace_notMem
    hpath.feed_notMem h
  obtain ⟨c, more, hcons⟩ := List.exists_cons_of_ne_nil
    (List.append_ne_nil_of_left_ne_nil hpath.ne_nil rest)
  have hc : Text.isBlank c = false := by
    have hhead := hpath.head_ne
    have hsame : (path ++ rest).head? = path.head? := List.head?_append_of_ne_nil _ hpath.ne_nil
    rw [← hsame, hcons] at hhead
    simpa using hhead
  rw [List.append_assoc (_ ++ blanks'), List.append_assoc (_ ++ braces), recognise,
    opening?_written hblanks]
  simp only [Option.bind_eq_bind, Option.bind_some, hcons,
    Text.trimStart_append_of_blank hblanks', Text.trimStart_cons hc,
    Text.takeWhile_append_of_blank hblanks' hc]
  rw [← hcons, hread]
  rfl

/-- **An include keeps its place and its ends when another path is written into it.** -/
theorem recognise_retarget {e : Enclosed} {back path : Text} (hfeed : '\n' ∉ e.text)
    (h : recognise (e.text ++ back) = some e) (hpath : IsWritable path) :
    recognise (Enclosed.text ⟨e.opening, path, e.closing⟩ ++ back) =
      some ⟨e.opening, path, e.closing⟩ := by
  obtain ⟨⟨blanks, blanks', hblanks, hblanks', hopening⟩, hclosing⟩ := ends_of_recognise hfeed h
  have hwritten := recognise_written hblanks hblanks' hpath hclosing
  rw [← hopening] at hwritten
  simpa [Enclosed.text] using hwritten

/-- What an include starts with, and the path that a scan would find from there on. -/
theorem exists_cons_of_recognise {e : Enclosed} {back : Text} (hfeed : '\n' ∉ e.text)
    (h : recognise (e.text ++ back) = some e) :
    ∃ t, e.text ++ back = '<' :: t ∧ (path? ('<' :: t)).isSome := by
  obtain ⟨⟨blanks, blanks', -, -, hopening⟩, hclosing⟩ := ends_of_recognise hfeed h
  have htext : e.text ++ back = e.opening ++ e.content ++ (e.closing ++ back) := by
    simp [Enclosed.text]
  have hne : e.opening ++ e.content ≠ [] := by simp [hopening, commentStart]
  have hfeed' : '\n' ∉ e.opening ++ e.content :=
    fun hmem => hfeed (List.mem_append_left e.closing hmem)
  have hpath := isSome_path? hne hfeed' hclosing
  rw [← htext] at hpath
  have hcons : ∃ t, e.text ++ back = '<' :: t := by
    rw [htext, hopening]
    exact ⟨_, rfl⟩
  obtain ⟨t, ht⟩ := hcons
  exact ⟨t, ht, ht ▸ hpath⟩

/-- **The scan comes to the same place**, whatever path is written there. -/
theorem passes_retarget {e : Enclosed} {front back path : Text}
    (hfeed : '\n' ∉ front ++ e.text) (hpasses : Token.Passes recognise (e.text ++ back) front)
    (h : recognise (e.text ++ back) = some e) (hpath : IsWritable path) :
    Token.Passes recognise (Enclosed.text ⟨e.opening, path, e.closing⟩ ++ back) front := by
  rw [List.mem_append, not_or] at hfeed
  have hfeed' : '\n' ∉ Enclosed.text ⟨e.opening, path, e.closing⟩ := by
    have hends := hfeed.2
    simp only [Enclosed.text, List.mem_append, not_or] at hends ⊢
    exact ⟨⟨hends.1.1, hpath.feed_notMem⟩, hends.2⟩
  have hsuffix : ∀ a : Text, a <:+ front → '\n' ∉ a := fun a ha hmem => hfeed.1 (ha.subset hmem)
  obtain ⟨t, ht, hsome⟩ := exists_cons_of_recognise hfeed.2 h
  obtain ⟨t', ht', hsome'⟩ := exists_cons_of_recognise hfeed' (recognise_retarget hfeed.2 h hpath)
  rw [ht] at hpasses
  rw [ht']
  refine hpasses.congr (fun a hne ha => ?_) (fun e' a ha => ?_)
  · exact recognise_append_eq_none hne (hsuffix a ha) hsome hsome'
  · exact recognise_append_eq_some (hsuffix _ ha) hsome hsome'

/-- **On its line, an include can be given another path**: whatever is under the cursor, the
line with another path in its place has that path under each of its columns. -/
theorem at?_of_at? {line path : Text} {column : Nat} {k : Token} (hfeed : '\n' ∉ line)
    (hk : at? line column = some k) (hpath : IsWritable path) :
    line = k.before ++ k.content ++ k.after ∧ k.after ≠ [] ∧
      ∀ column', Span.Covers ⟨utf16Length k.before, utf16Length k.before + utf16Length path⟩ column' →
        at? (k.before ++ path ++ k.after) column' = some ⟨k.before, path, k.after⟩ := by
  obtain ⟨front, e, back, rfl, hpasses, hsome, rfl⟩ := Token.exists_passes recognise_sound
    recognise_delimited (List.mem_of_find?_eq_some hk)
  have hfeed' : '\n' ∉ front ++ e.text := by
    rw [← List.append_assoc] at hfeed
    exact fun hmem => hfeed (List.mem_append_left back hmem)
  have hclosing := recognise_delimited _ _ hsome
  refine ⟨by simp [Enclosed.inside, Enclosed.text], by simp [Enclosed.inside, hclosing], ?_⟩
  intro column' hcovers
  have hcovers' : (Enclosed.inside ⟨e.opening, path, e.closing⟩ front back).span.Covers column' :=
    hcovers
  have hfound := (passes_retarget hfeed' hpasses hsome hpath).find?_eq_some recognise_delimited
    (recognise_retarget (fun hmem => hfeed' (List.mem_append_right front hmem)) hsome hpath)
    hcovers'
  simpa [at?, Enclosed.inside, Enclosed.text] using hfound

/-- **An include can be given another path.** Whatever text and whatever cursor, the path of the
include under the cursor is replaced in the text. On the same line, the include is then found
under every column from the start of the new path to its end, with the new path as its content
and just these columns as its range. -/
theorem at?_retarget {t line path : Text} {n column : Nat} {k : Token}
    (hline : t.lineAt? n = some line) (hk : at? line column = some k) (hpath : IsWritable path) :
    ∃ line', (Change.applyAll [⟨some (k.span.onLine n), path⟩] t).lineAt? n = some line' ∧
      ∀ column', k.span.start ≤ column' → column' ≤ k.span.start + utf16Length path →
        ∃ k', at? line' column' = some k' ∧ k'.content = path ∧
          k'.span.onLine n = ⟨⟨n, k.span.start⟩, ⟨n, k.span.start + utf16Length path⟩⟩ := by
  have hfeed : '\n' ∉ line := Text.notMem_of_lineAt? hline
  obtain ⟨rfl, hafter, hfound⟩ := at?_of_at? hfeed hk hpath
  have hnew := Change.lineAt?_apply hline hafter hpath.feed_notMem
  rw [utf16Length_append] at hnew
  refine ⟨k.before ++ path ++ k.after, hnew, fun column' hstart hstop => ?_⟩
  exact ⟨⟨k.before, path, k.after⟩, hfound column' ⟨hstart, hstop⟩, rfl, rfl⟩

/-- A line on which an include holds white space only and another one follows. The path under
the cursor then reaches from the closing braces of the first to the path of the second, and it is
replaced by a path that looks like an include that is not closed. -/
theorem at?_retarget_unclosed :
    let t : Text := "<p>\r\n😀<!--\x7b\x7b \x7d\x7d --> <!-- \x7b\x7b a.html \x7d\x7d -->\r\n".toList
    let path : Text := "b <!-- \x7b\x7b 😀.html".toList
    let line : Text := "😀<!--\x7b\x7b \x7d\x7d --> <!-- \x7b\x7b a.html \x7d\x7d -->".toList
    let line' : Text := "😀<!--\x7b\x7b b <!-- \x7b\x7b 😀.html \x7d\x7d -->".toList
    let k : Token := ⟨"😀<!--\x7b\x7b ".toList, "\x7d\x7d --> <!-- \x7b\x7b a.html".toList,
      " \x7d\x7d -->".toList⟩
    (t.lineAt? 1 = some line ∧ at? line 20 = some k ∧ IsWritable path) ∧
      (Change.applyAll [⟨some (k.span.onLine 1), path⟩] t).lineAt? 1 = some line' ∧
      ∃ k', at? line' 26 = some k' ∧ k'.content = path ∧
        k'.span.onLine 1 = ⟨⟨1, 9⟩, ⟨1, 26⟩⟩ := by
  intro t path line line' k
  have hline : t.lineAt? 1 = some line := by decide +kernel
  have hk : at? line 20 = some k := by decide +kernel
  have hpath : IsWritable path := ⟨by decide, by decide, by decide, by decide, by decide⟩
  have hnew : (Change.applyAll [⟨some (k.span.onLine 1), path⟩] t).lineAt? 1 = some line' := by
    decide +kernel
  obtain ⟨line₁, hline₁, hfound⟩ := at?_retarget hline hk hpath
  obtain rfl := Option.some.inj (hnew.symm.trans hline₁)
  exact ⟨⟨hline, hk, hpath⟩, hnew, hfound 26 (by decide) (by decide)⟩

end Include

end Signpost
