import Signpost.Proofs.Token.Construction
import Signpost.Proofs.Token.Grammar
import Signpost.Proofs.Token.Ways
import Signpost.Proofs.Token.Words

/-!
# What is read is what the patterns say

Includes, script strings and constructions are read by functions that go for one result and do not
try a pattern in all its ways. Here each of them is compared with its pattern.

* An include and a script string are the **first way** of their frames at every place
  (`Signpost.Include.recognise_eq_first?`, `Signpost.Script.recognise_eq_first?`), so the tokens of
  a line are the matches of the frames from left to right (`tokens_eq_scan` for either).
* A word and the tail of a construction are what their patterns match
  (`Signpost.Include.isWord_eq_isMatch`, `Signpost.Construction.isTail_eq_isMatch`), and so is what
  follows a keyword, with the keyword in front (`Signpost.Construction.followsKeyword_eq_isMatch`).
* The last keyword is the last match of its pattern
  (`Signpost.Construction.lastKeyword?_eq_scan`).

Only for includes is there anything to choose. A script string can be read in one way at most: its
name runs up to the next quote of its kind. An include can be read in many, because white space may
go to the opening part, to the path or to the closing part. The opening part comes first and takes
all of it, and the path takes as little as it can, which makes `Signpost.Include.path?` the first
way with what is left (`Signpost.Include.findSome?_content`). If that comes to nothing, the opening
part gives back one character after the other, from the last on, and the path is found as soon as
it can be one character of white space (`Signpost.Include.findSome?_gap`). This is the only case in
which the path is blank.
-/

namespace Signpost

namespace Include

/-! ### Includes -/

/-- An include can be closed in one way at most. -/
theorem ways_closing (before t : Text) :
    frame.closing.ways before t = (closing? t).toList := by
  change (Pattern.seq .blanks (.seq (.text closingBraces) (.seq .blanks
    (.seq (.text commentStop) (.text []))))).ways before t = _
  rw [Pattern.ways_blanks_text (by decide)]
  rcases hu : Text.skip? closingBraces t.trimStart with _ | u
  · simp [closing?, hu]
  · dsimp only
    rw [Pattern.ways_blanks_text (by decide)]
    rcases hv : Text.skip? commentStop u.trimStart with _ | v
    · simp [closing?, hu, hv]
    · simp [closing?, hu, hv, Pattern.ways]

/-- An include can be opened with all white space behind the braces or with less. -/
theorem ways_opening (before t : Text) :
    frame.opening.ways before t = match opening? t with
      | some (opening, u) => (Pattern.runs false Text.isBlank u).map (opening ++ ·)
      | none => [] := by
  change (Pattern.seq (.text commentStart) (.seq .blanks (.seq (.text braces)
    (.all [.blanks])))).ways before t = _
  rw [Pattern.ways_text_seq]
  rcases hu : Text.skip? commentStart t with _ | u
  · simp [opening?, hu]
  · dsimp only
    rw [Pattern.ways_blanks_text (by decide)]
    rcases hv : Text.skip? braces u.trimStart with _ | v
    · simp [opening?, hu, hv]
    · simp [opening?, hu, hv, Pattern.ways_all_singleton, Pattern.blanks, Pattern.ways,
        Function.comp_def]

theorem kind_content {c : Char} : Regex.Kind.other (.just '\n') c = true ↔ c ≠ '\n' := by
  simp [Regex.Kind.other, Regex.Kind.just]

/-- A path goes on as long as it cannot be closed. -/
theorem findSome?_runs {c : Char} (hc : c ≠ '\n') (t : Text) :
    (Pattern.runs true (.other (.just '\n')) t).findSome? (fun more =>
      (closing? (t.drop more.length)).map fun closing => (c :: more, closing)) =
      path? (c :: t) := by
  induction t generalizing c with
  | nil => simp [Pattern.runs, path?, hc, closing?, Text.trimStart, Text.skip?, closingBraces]
  | cons d t ih =>
    rw [path?, if_neg hc, Pattern.runs]
    rcases hclosing : closing? (d :: t) with _ | closing
    · by_cases hd : d = '\n'
      · rw [if_neg fun h => kind_content.1 h hd]
        subst hd
        simp [hclosing, path?]
      · rw [if_pos (kind_content.2 hd), ← ih hd]
        simp only [if_true, List.findSome?_cons, List.findSome?_map, List.length_nil,
          List.drop_zero, hclosing, Option.map_none, Function.comp_def, List.length_cons,
          List.drop_succ_cons, List.map_findSome?, Option.map_map]
    · split <;> simp [hclosing]

/-- **A path is the first way** of the pattern of paths, with the first way to close it. -/
theorem findSome?_content (before t : Text) :
    (frame.content.ways before t).findSome? (fun path =>
      (closing? (t.drop path.length)).map fun closing => (path, closing)) = path? t := by
  cases t with
  | nil => rfl
  | cons c t =>
    change ((Pattern.several true (.other (.just '\n'))).ways before (c :: t)).findSome? _ = _
    rw [Pattern.ways_several_cons]
    by_cases hc : c = '\n'
    · rw [if_neg fun h => kind_content.1 h hc, path?, if_pos hc]
      rfl
    · rw [if_pos (kind_content.2 hc), List.findSome?_map, ← findSome?_runs hc]
      rfl

/-- A closing part takes all white space in front of it. -/
theorem closing?_append_of_blank {blanks : Text} (h : Text.Blank blanks) (t : Text) :
    closing? (blanks ++ t) = (closing? t).map (blanks ++ ·) := by
  have htake : (blanks ++ t).takeWhile Text.isBlank = blanks ++ t.takeWhile Text.isBlank :=
    List.takeWhile_append_of_pos h
  rw [closing?, closing?, Text.trimStart_append_of_blank h, htake]
  rcases Text.skip? closingBraces t.trimStart with _ | u
  · rfl
  · rcases hv : Text.skip? commentStop u.trimStart with _ | v
    · simp [hv]
    · simp [hv]

/-- Where nothing can be closed there is no path, not even with white space in front. -/
theorem path?_append_eq_none {blanks t : Text} (hblanks : Text.Blank blanks)
    (hpath : path? t = none) (hclosing : closing? t = none) :
    path? (blanks ++ t) = none := by
  induction blanks with
  | nil => exact hpath
  | cons c blanks ih =>
    have hblanks' : Text.Blank blanks := fun d hd => hblanks d (List.mem_cons_of_mem c hd)
    rw [List.cons_append, path?, closing?_append_of_blank hblanks', hclosing, ih hblanks']
    split <;> rfl

theorem blankPath?_cons (c : Char) (blanks : Text) :
    blankPath? (c :: blanks) = match blankPath? blanks with
      | some (before, path, behind) => some (c :: before, path, behind)
      | none => if c = '\n' then none else some ([], [c], blanks) := by
  unfold blankPath?
  rw [List.reverse_cons, List.dropWhile_append]
  rcases hdrop : blanks.reverse.dropWhile (· = '\n') with _ | ⟨d, before⟩
  · by_cases hc : c = '\n'
    · simp [hc]
    · simp [hc]
  · simp

/-- **White space gives way to the path** if there is no path behind it: the last of it that can
be a path is the path. -/
theorem findSome?_gap (t : Text) :
    (Pattern.runs false Text.isBlank t).findSome? (fun gap =>
      (path? (t.drop gap.length)).map (gap, ·)) =
      match path? t.trimStart with
      | some (path, closing) => some (t.takeWhile Text.isBlank, path, closing)
      | none => (closing? t.trimStart).bind fun closing =>
        (blankPath? (t.takeWhile Text.isBlank)).map fun (before, path, behind) =>
          (before, path, behind ++ closing) := by
  induction t with
  | nil => simp [Pattern.runs, path?, Text.trimStart, blankPath?]
  | cons c t ih =>
    by_cases hc : Text.isBlank c = true
    · have hsplit := Text.takeWhile_append_trimStart t
      have hblank := Text.blank_takeWhile t
      have htrim : Text.trimStart (c :: t) = Text.trimStart t := List.dropWhile_cons_of_pos hc
      have hmore : ((Pattern.runs false Text.isBlank t).map (c :: ·)).findSome? (fun gap =>
          (path? ((c :: t).drop gap.length)).map (gap, ·)) =
          ((Pattern.runs false Text.isBlank t).findSome? fun gap =>
            (path? (t.drop gap.length)).map (gap, ·)).map fun r => (c :: r.1, r.2) := by
        simp [List.findSome?_map, Function.comp_def, List.map_findSome?]
      rw [Pattern.runs_cons_of_pos hc, List.findSome?_append, hmore, ih, htrim,
        List.takeWhile_cons_of_pos hc, blankPath?_cons]
      generalize t.takeWhile Text.isBlank = blanks at hsplit hblank ⊢
      generalize Text.trimStart t = body at hsplit ⊢
      subst hsplit
      rcases hpath : path? body with _ | ⟨path, closing⟩
      · rcases hclosing : closing? body with _ | closing
        · have hblanks : Text.Blank (c :: blanks) := List.forall_mem_cons.2 ⟨hc, hblank⟩
          have hnone := path?_append_eq_none hblanks hpath hclosing
          rw [List.cons_append] at hnone
          simp [hnone]
        · rcases blankPath? blanks with _ | ⟨before, path, behind⟩
          · -- the white space passed so far is line feeds, so the next of it is the path
            by_cases hfeed : c = '\n'
            · simp [hfeed, path?]
            · simp [hfeed, path?, closing?_append_of_blank hblank, hclosing]
          · rfl
      · rfl
    · have htrim : Text.trimStart (c :: t) = c :: t := List.dropWhile_cons_of_neg hc
      rw [Pattern.runs_cons_of_neg hc, htrim, List.takeWhile_cons_of_neg hc,
        List.findSome?_singleton, List.length_nil, List.drop_zero]
      rcases path? (c :: t) with _ | ⟨path, closing⟩
      · simp [blankPath?]
      · rfl

/-- **An include is the first way of its pattern**, wherever in a line it is looked for. -/
theorem recognise_eq_first? (before after : Text) :
    recognise after = Frame.first? [frame] before after := by
  rw [Frame.first?_singleton, ways_opening]
  rcases hopening : opening? after with _ | ⟨opening, u⟩
  · simp [recognise, hopening]
  · -- what the white space leaves over is read as a path
    have hread : ∀ gap : Text, ((frame.content.ways (before ++ (opening ++ gap))
        (after.drop (opening ++ gap).length)).findSome? fun content =>
          (frame.closing.first? (before ++ (opening ++ gap) ++ content)
            ((after.drop (opening ++ gap).length).drop content.length)).map fun closing =>
              (⟨opening ++ gap, content, closing⟩ : Enclosed)) =
        ((path? (u.drop gap.length)).map (gap, ·)).map
          fun r => ⟨opening ++ r.1, r.2.1, r.2.2⟩ := by
      intro gap
      have hdrop : after.drop (opening ++ gap).length = u.drop gap.length := by
        rw [(opening?_eq_some hopening).1, List.length_append, ← List.drop_drop, List.drop_left]
      rw [hdrop, ← findSome?_content (before ++ (opening ++ gap))]
      simp [Pattern.first?, ways_closing, List.map_findSome?, Function.comp_def]
    have hgap := congrArg (Option.map fun r =>
      (⟨opening ++ r.1, r.2.1, r.2.2⟩ : Enclosed)) (findSome?_gap u)
    rw [List.map_findSome?] at hgap
    dsimp only
    rw [List.findSome?_map]
    refine Eq.trans ?_ ((congrArg (List.findSome? · _) (funext hread)).trans hgap).symm
    rw [recognise, hopening, Option.bind_eq_bind, Option.bind_some]
    dsimp only
    rcases path? u.trimStart with _ | ⟨path, closing⟩
    · rcases closing? u.trimStart with _ | closing
      · rfl
      · rcases blankPath? (u.takeWhile Text.isBlank) with _ | ⟨before', path, behind⟩
        · rfl
        · rfl
    · rfl

theorem tokens_eq_scan (line : Text) : tokens line = Frame.scan [frame] line :=
  Frame.scan_eq recognise_eq_first? line

/-! ### Words -/

/-- The pattern of a step: none, `/`, `./` or `../`. -/
theorem reads_step {before t after : Text} :
    (Pattern.optional (.all [.optional (.text ['.']), .optional (.text ['.']), .text ['/']])).Reads
      before t after ↔ t ∈ steps := by
  simp only [Pattern.reads_optional, Pattern.reads_all_cons_cons, Pattern.reads_all_singleton,
    Pattern.reads_text]
  constructor
  · rintro (⟨_, _, rfl, rfl | rfl, _, _, rfl, rfl | rfl, rfl⟩ | rfl)
    all_goals decide
  · simp only [steps, List.mem_cons, List.not_mem_nil, or_false]
    rintro (rfl | rfl | rfl | rfl)
    · exact Or.inr rfl
    · exact Or.inl ⟨[], _, rfl, Or.inr rfl, [], _, rfl, Or.inr rfl, rfl⟩
    · exact Or.inl ⟨['.'], _, rfl, Or.inl rfl, [], _, rfl, Or.inr rfl, rfl⟩
    · exact Or.inl ⟨['.'], _, rfl, Or.inl rfl, ['.'], _, rfl, Or.inl rfl, rfl⟩

/-- **A path is a word** if it is what the pattern of words says. -/
theorem isWord_eq_isMatch (path : Text) : isWord path = wordForm.isMatch path := by
  have hclass : ∀ name : Text, (∀ c ∈ name, isNameChar c = true) ↔ ∀ c ∈ name, InNames c := by
    simp only [isNameChar_iff, implies_true]
  rw [Bool.eq_iff_iff, isWord_iff]
  refine Iff.trans ?_ (Pattern.isMatch_whole_iff
    (l := [.optional (.all [.optional (.text ['.']), .optional (.text ['.']), .text ['/']]),
      .several false isNameChar])).symm
  simp only [Pattern.reads_all_cons_cons, Pattern.reads_all_singleton, reads_step,
    Pattern.reads_several, hclass]
  constructor
  · rintro ⟨step, name, hstep, hne, hname, rfl⟩
    exact ⟨step, name, rfl, hstep, hne, hname⟩
  · rintro ⟨step, name, rfl, hstep, hne, hname⟩
    exact ⟨step, name, hstep, hne, hname, rfl⟩

end Include

namespace Script

/-! ### Script strings -/

theorem notMem_ending {quote : Char} (hquote : IsQuote quote) {ending : Text}
    (h : ending ∈ endings) : quote ∉ ending ∧ '\n' ∉ ending := by
  have hall : ∀ s ∈ endings, '\'' ∉ s ∧ '"' ∉ s ∧ '\n' ∉ s := by decide
  obtain ⟨hsingle, hdouble, hfeed⟩ := hall ending h
  rcases hquote with rfl | rfl
  · exact ⟨hsingle, hfeed⟩
  · exact ⟨hdouble, hfeed⟩

/-- **When something is recognised.** -/
theorem recognise_eq_some_iff {t : Text} {e : Enclosed} :
    recognise t = some e ↔ ∃ quote name rest, IsQuote quote ∧ quote ∉ name ∧ '\n' ∉ name ∧
      isName name = true ∧ e = ⟨[quote], name, [quote]⟩ ∧ t = e.text ++ rest := by
  constructor
  · intro h
    obtain ⟨quote, rest, hquote, he, hname, rfl⟩ := recognise_eq_some h
    have htext : e.text ++ rest = quote :: (e.content ++ quote :: rest) := by
      rw [he]
      simp [Enclosed.text]
    rw [htext] at h
    obtain ⟨hmem, hfeed⟩ := notMem_of_recognise h
    exact ⟨quote, e.content, rest, hquote, hmem, hfeed, hname, he, rfl⟩
  · rintro ⟨quote, name, rest, hquote, hmem, hfeed, hname, rfl, rfl⟩
    simpa [Enclosed.text] using recognise_quoted hquote hmem hfeed hname rest

theorem mem_endings_iff {t : Text} : t ∈ endings ↔
    ∃ s, (s = ['t', 's'] ∨ s = ['j', 's'] ∨ s = ['m', 'j', 's']) ∧ t = '.' :: s := by
  simp [endings]

/-- A name whose characters up to the ending are no quotes and no line feeds. -/
theorem reads_content {quote : Char} (hquote : IsQuote quote) {before t after : Text} :
    (frame quote).content.Reads before t after ↔ quote ∉ t ∧ '\n' ∉ t ∧ isName t = true := by
  have hkind : ∀ c, Regex.Kind.other (.or (.just quote) (.just '\n')) c = true ↔
      c ≠ quote ∧ c ≠ '\n' := by
    simp [Regex.Kind.other, Regex.Kind.or, Regex.Kind.just]
  simp only [frame, Pattern.reads_all_cons_cons, Pattern.reads_all_singleton, Pattern.reads_several,
    Pattern.reads_text, Pattern.reads_either, hkind]
  constructor
  · rintro ⟨stem, _, rfl, ⟨hne, hstem⟩, _, s, rfl, rfl, hs⟩
    have hmem : '.' :: s ∈ endings := mem_endings_iff.2 ⟨s, hs, rfl⟩
    obtain ⟨hquote', hfeed⟩ := notMem_ending hquote hmem
    refine ⟨?_, ?_, isName_iff.2 ⟨stem, '.' :: s, hmem, hne, by simp⟩⟩
    · simpa using ⟨fun h => (hstem _ h).1 rfl, by simpa using hquote'⟩
    · simpa using ⟨fun h => (hstem _ h).2 rfl, by simpa using hfeed⟩
  · rintro ⟨hmem, hfeed, hname⟩
    obtain ⟨stem, ending, hending, hne, rfl⟩ := isName_iff.1 hname
    obtain ⟨s, hs, rfl⟩ := mem_endings_iff.1 hending
    rw [List.mem_append, not_or] at hmem hfeed
    refine ⟨stem, '.' :: s, rfl, ⟨hne, fun c hc => ⟨?_, ?_⟩⟩, ['.'], s, rfl, rfl, hs⟩
    · rintro rfl
      exact hmem.1 hc
    · rintro rfl
      exact hfeed.1 hc

/-- **A script string is the first way of its patterns**, and their only one. -/
theorem recognise_eq_first? (before after : Text) :
    recognise after = Frame.first? frames before after := by
  refine (head?_eq_of_mem_iff fun e => ?_).symm
  have hframes : e ∈ frames.flatMap (fun f => f.ways before after) ↔
      ∃ quote, IsQuote quote ∧ e ∈ (frame quote).ways before after := by
    simp [frames, IsQuote]
  rw [hframes, recognise_eq_some_iff]
  constructor
  · rintro ⟨quote, hquote, hmem⟩
    obtain ⟨rest, rfl, hopening, hcontent, hclosing⟩ := Frame.mem_ways_iff.1 hmem
    obtain ⟨hmem, hfeed, hname⟩ := (reads_content hquote).1 hcontent
    refine ⟨quote, e.content, rest, hquote, hmem, hfeed, hname, ?_, rfl⟩
    have hopening' : e.opening = [quote] := Pattern.reads_text.1 hopening
    have hclosing' : e.closing = [quote] := Pattern.reads_text.1 hclosing
    calc e = ⟨e.opening, e.content, e.closing⟩ := rfl
      _ = ⟨[quote], e.content, [quote]⟩ := by rw [hopening', hclosing']
  · rintro ⟨quote, name, rest, hquote, hmem, hfeed, hname, rfl, rfl⟩
    exact ⟨quote, hquote, Frame.mem_ways_iff.2 ⟨rest, rfl, Pattern.reads_text.2 rfl,
      (reads_content hquote).2 ⟨hmem, hfeed, hname⟩, Pattern.reads_text.2 rfl⟩⟩

theorem tokens_eq_scan (line : Text) : tokens line = Frame.scan frames line :=
  Frame.scan_eq recognise_eq_first? line

end Script

namespace Construction

/-! ### Constructions -/

/-- The pattern of a class reads a class. -/
theorem reads_classForm {before t after : Text} :
    classForm.Reads before t after ↔ IsClass t := by
  simp only [classForm, Pattern.reads_all_cons_cons, Pattern.reads_all_singleton,
    Pattern.reads_optional, Pattern.reads_text]
  constructor
  · rintro ⟨_, _, rfl, rfl | rfl, rfl⟩
    · exact Or.inr rfl
    · exact Or.inl rfl
  · rintro (rfl | rfl)
    · exact ⟨[], worker, rfl, Or.inr rfl, rfl⟩
    · exact ⟨_, worker, rfl, Or.inl rfl, rfl⟩

/-- **What follows a keyword is right** if the pattern of constructions matches from the keyword
on. -/
theorem followsKeyword_eq_isMatch (t : Text) :
    followsKeyword t = wholeForm.isMatch (keyword ++ t) := by
  rw [Bool.eq_iff_iff, followsKeyword_iff]
  refine Iff.trans ?_ (Pattern.isMatch_whole_iff
    (l := [.text ['n', 'e', 'w'], .several false Text.isBlank, classForm, .blanks, .text ['('],
      .blanks])).symm
  simp only [Pattern.reads_all_cons_cons, Pattern.reads_all_singleton, Pattern.reads_text,
    Pattern.reads_several, Pattern.reads_blanks, reads_classForm]
  constructor
  · rintro ⟨blanks, name, blanks', blanks'', hblanks, hne, hname, hblanks', hblanks'', rfl⟩
    exact ⟨keyword, _, rfl, rfl, blanks, name ++ (blanks' ++ '(' :: blanks''), by simp,
      ⟨hne, hblanks⟩, name, _, rfl, hname, blanks', _, rfl, hblanks', ['('], blanks'', rfl, rfl,
      hblanks''⟩
  · rintro ⟨_, _, h, rfl, blanks, _, rfl, ⟨hne, hblanks⟩, name, _, rfl, hname, blanks', _, rfl,
      hblanks', _, blanks'', rfl, rfl, hblanks''⟩
    obtain rfl := List.append_cancel_left h
    exact ⟨blanks, name, blanks', blanks'', hblanks, hne, hname, hblanks', hblanks'', by simp⟩

/-- **A tail** has white space, and then the class and the parenthesis, each with white space behind
it, or not. -/
theorem isTail_iff {t : Text} : isTail t = true ↔ ∃ blanks u v, t = blanks ++ (u ++ v) ∧
    Text.Blank blanks ∧
    ((∃ name blanks', u = name ++ blanks' ∧ IsClass name ∧ Text.Blank blanks') ∨ u = []) ∧
    ((∃ blanks'', v = '(' :: blanks'' ∧ Text.Blank blanks'') ∨ v = []) := by
  have hclosed : ∀ v : Text, (v.isEmpty || isOpening v) = true ↔
      (∃ blanks'', v = '(' :: blanks'' ∧ Text.Blank blanks'') ∨ v = [] := by
    intro v
    simp only [Bool.or_eq_true, isOpening_iff, List.isEmpty_iff, or_comm, and_comm]
  constructor
  · intro h
    rw [isTail, hclosed] at h
    have ht := Text.takeWhile_append_trimStart t
    refine ⟨t.takeWhile Text.isBlank, ?_⟩
    rcases hclass : className? t.trimStart with _ | rest
    · rw [hclass] at h
      exact ⟨[], t.trimStart, ht.symm, Text.blank_takeWhile t, Or.inr rfl, h⟩
    · rw [hclass] at h
      obtain ⟨name, hname, htrim⟩ := className?_eq_some hclass
      refine ⟨name ++ rest.takeWhile Text.isBlank, rest.trimStart, ?_, Text.blank_takeWhile t,
        Or.inl ⟨name, _, rfl, hname, Text.blank_takeWhile rest⟩, h⟩
      rw [List.append_assoc, Text.takeWhile_append_trimStart, ← htrim, ht]
  · rintro ⟨blanks, _, v, rfl, hblanks, ⟨name, blanks', rfl, hname, hblanks'⟩ | rfl, hv⟩
    · have htrim := trimStart_class hblanks hname (blanks' ++ v)
      rcases hv with ⟨blanks'', rfl, hblanks''⟩ | rfl
      · simpa using isTail_class hblanks hname hblanks' hblanks''
      · rw [List.append_nil] at htrim ⊢
        simp only [isTail, ← List.append_assoc, htrim, className?_append hname,
          Text.trimStart_of_blank hblanks', List.isEmpty_nil, Bool.true_or]
    · rcases hv with ⟨blanks'', rfl, hblanks''⟩ | rfl
      · exact isTail_opening hblanks hblanks''
      · simpa using isTail_blank hblanks

/-- **A text is a tail** if the pattern of tails says so. -/
theorem isTail_eq_isMatch (t : Text) : isTail t = tailForm.isMatch t := by
  rw [Bool.eq_iff_iff, isTail_iff]
  refine Iff.trans ?_ (Pattern.isMatch_whole_iff
    (l := [.blanks, .optional (.all [classForm, .blanks]),
      .optional (.all [.text ['('], .blanks])])).symm
  simp only [Pattern.reads_all_cons_cons, Pattern.reads_all_singleton, Pattern.reads_text,
    Pattern.reads_optional, Pattern.reads_blanks, reads_classForm]
  have hopening : ∀ v : Text, (∃ a b, v = a ++ b ∧ a = ['('] ∧ Text.Blank b) ↔
      ∃ blanks, v = '(' :: blanks ∧ Text.Blank blanks := by
    simp
  simp only [hopening]
  constructor
  · rintro ⟨blanks, u, v, rfl, hblanks, hu, hv⟩
    exact ⟨blanks, u ++ v, rfl, hblanks, u, v, rfl, hu, hv⟩
  · rintro ⟨blanks, _, rfl, hblanks, u, v, rfl, hu, hv⟩
    exact ⟨blanks, u, v, rfl, hblanks, hu, hv⟩

/-- The pattern of the keyword reads the keyword where it is a word of its own. -/
theorem reads_keywordForm {before t after : Text} : keywordForm.Reads before t after ↔
    t = keyword ∧ before.getLast?.any Text.isWordChar = false ∧
      after.head?.any Text.isWordChar = false := by
  have hn : Text.isWordChar 'n' = true := by decide
  have hw : Text.isWordChar 'w' = true := by decide
  simp only [keywordForm, Pattern.reads_all_cons_cons, Pattern.reads_all_singleton,
    Pattern.reads_check, Pattern.reads_text, Anchor.holds_boundary]
  constructor
  · rintro ⟨_, _, rfl, ⟨rfl, hbefore⟩, _, _, rfl, rfl, rfl, hafter⟩
    exact ⟨rfl, by simpa [hn] using hbefore, by simpa [hw] using hafter⟩
  · rintro ⟨rfl, hbefore, hafter⟩
    exact ⟨[], keyword, rfl, ⟨rfl, by simp [keyword, hn, hbefore]⟩, keyword, [], rfl, rfl, rfl,
      by simp [keyword, hw, hafter]⟩

theorem first?_keywordForm (before after : Text) : keywordForm.first? before after =
    (keyword? before.getLast? after).map fun _ => keyword := by
  refine head?_eq_of_mem_iff fun t => ?_
  constructor
  · intro h
    obtain ⟨rest, rfl⟩ := Pattern.exists_of_mem_ways h
    obtain ⟨rfl, hbefore, hafter⟩ := reads_keywordForm.1 h
    rw [keyword?_eq_some_iff.2 ⟨rfl, hbefore, hafter⟩]
    rfl
  · intro h
    obtain ⟨rest, hkeyword, rfl⟩ := Option.map_eq_some_iff.1 h
    obtain ⟨rfl, hbefore, hafter⟩ := keyword?_eq_some_iff.1 hkeyword
    exact reads_keywordForm.2 ⟨rfl, hbefore, hafter⟩

/-- **The last keyword of a text** is the last match of its pattern. -/
theorem lastKeyword?_eq_scan (t : Text) : lastKeyword? none t =
    (Frame.scan [.bare keywordForm] t).getLast?.map Token.after := by
  have hcons : ∀ (k : Token) (l : List Token), (k :: l).getLast?.map Token.after =
      (l.getLast?.map Token.after).or (some k.after) := by
    intro k l
    rw [List.getLast?_cons]
    rcases l.getLast? with _ | j
    · rfl
    · rfl
  -- no keyword starts in what is skipped, which is the rest of the last one
  have hfrom : ∀ after skip before, (∀ n < skip, after[n]? ≠ some 'n') →
      lastKeyword? before.getLast? after =
        (Frame.scanFrom [.bare keywordForm] skip before after).getLast?.map Token.after := by
    intro after
    induction after with
    | nil =>
      intro skip before _
      rw [lastKeyword?, Frame.scanFrom]
      rfl
    | cons c after ih =>
      intro skip before hskip
      have hlast : (before ++ [c]).getLast? = some c := List.getLast?_concat
      rw [lastKeyword?, ← hlast]
      cases skip with
      | zero =>
        rw [Frame.scanFrom, Frame.first?_bare, first?_keywordForm]
        rcases hkeyword : keyword? before.getLast? (c :: after) with _ | rest
        · rw [Option.or_none]
          exact ih 0 (before ++ [c]) (by simp)
        · obtain ⟨heq, -, -⟩ := keyword?_eq_some_iff.1 hkeyword
          obtain ⟨rfl, rfl⟩ := List.cons_eq_cons.1 heq
          have hskip : ∀ n < 2, (['e', 'w'].append rest)[n]? ≠ some 'n' := by
            intro n hn
            obtain rfl | rfl : n = 0 ∨ n = 1 := by omega
            all_goals simp
          rw [ih 2 (before ++ ['n']) hskip]
          exact (hcons ⟨before ++ [], keyword, rest⟩ _).symm
      | succ skip =>
        have hc : c ≠ 'n' := by simpa using hskip 0 (Nat.zero_lt_succ skip)
        have hnone : keyword? before.getLast? (c :: after) = none := by
          refine Option.eq_none_iff_forall_not_mem.2 fun rest hrest => hc ?_
          exact (List.cons_eq_cons.1 (keyword?_eq_some_iff.1 hrest).1).1
        rw [Frame.scanFrom, hnone, Option.or_none]
        exact ih skip (before ++ [c]) fun n hn => hskip (n + 1) (Nat.succ_lt_succ hn)
  exact hfrom t 0 [] (by simp)

end Construction

end Signpost
