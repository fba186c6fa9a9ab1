import Signpost.Proofs.Token.Rendered

/-!
# Words that are selected and words that are found

An editor is told a pattern for the words of a page (`Signpost.Include.wordPattern`): a word is a
name with at most one step in front of it, between an opening and a closing part of an include. The
pattern looks at what stands right before a word and right behind it and at nothing else
(`Signpost.Include.Selects`). An editor may also ask which word is under a column
(`Signpost.Include.wordAt?`), and then the line is scanned for includes.

What is found is always selected. The converse is false
(`Signpost.Include.wordAt?_misses_selected`), because an include that is opened earlier on the line
and not closed takes the closing part of the word for its own. That is the only reason: a word that
is selected is found exactly if no earlier include reaches over the comment that it stands in
(`Signpost.Include.wordAt?_eq_some_iff_selects`).
-/

namespace Signpost.Include

/-! ### Words -/

/-- A letter, a digit, a dot, an underscore or a hyphen. -/
def InNames (c : Char) : Prop :=
  'a' ≤ c ∧ c ≤ 'z' ∨ 'A' ≤ c ∧ c ≤ 'Z' ∨ '0' ≤ c ∧ c ≤ '9' ∨ c = '.' ∨ c = '_' ∨ c = '-'

instance (c : Char) : Decidable (InNames c) :=
  inferInstanceAs (Decidable (_ ∨ _))

/-- What may stand in front of a name: nothing, or one step. -/
def steps : List Text := [[], ['/'], ['.', '/'], ['.', '.', '/']]

/-- **A word**: a name, with at most one step in front of it. -/
def IsWord (w : Text) : Prop :=
  ∃ step name : Text, step ∈ steps ∧ name ≠ [] ∧ (∀ c ∈ name, InNames c) ∧ w = step ++ name

/-- **What the word pattern selects**: the columns of a word, right behind the opening part of an
include that begins behind `front`, and right before a closing part. Nothing is said about the rest
of the line. -/
inductive Selects (line front : Text) : Span → Prop
  /-- The word `w`. -/
  | word {blanks blanks' w after : Text} (hblanks : Text.Blank blanks)
      (hblanks' : Text.Blank blanks') (hword : IsWord w) (hcloses : Closes after)
      (hline : line = front ++ (commentStart ++ blanks ++ braces ++ blanks') ++ w ++ after) :
      Selects line front
        ⟨utf16Length (front ++ (commentStart ++ blanks ++ braces ++ blanks')),
          utf16Length (front ++ (commentStart ++ blanks ++ braces ++ blanks')) + utf16Length w⟩

theorem isNameChar_iff {c : Char} : isNameChar c = true ↔ InNames c := by
  have halphanum : c.isAlphanum = (decide ('A' ≤ c ∧ c ≤ 'Z') ||
      decide ('a' ≤ c) && decide (c ≤ 'z') || decide ('0' ≤ c) && decide (c ≤ '9')) := rfl
  simp only [isNameChar, halphanum, InNames, Bool.or_eq_true, Bool.and_eq_true, decide_eq_true_eq]
  tauto

theorem InNames.bounds {c : Char} (h : InNames c) : 45 ≤ c.toNat ∧ c.toNat ≤ 122 := by
  simp only [InNames, Char.le_def, UInt32.le_iff_toNat_le] at h
  change 97 ≤ c.toNat ∧ c.toNat ≤ 122 ∨ 65 ≤ c.toNat ∧ c.toNat ≤ 90 ∨
    48 ≤ c.toNat ∧ c.toNat ≤ 57 ∨ c = '.' ∨ c = '_' ∨ c = '-' at h
  rcases h with h | h | h | rfl | rfl | rfl
  · omega
  · omega
  · omega
  all_goals decide

theorem InNames.ne_slash {c : Char} (h : InNames c) : c ≠ '/' := by
  rintro rfl
  revert h
  decide

theorem dropStep_of_notMem {name : Text} (h : '/' ∉ name) : dropStep name = name := by
  unfold dropStep
  split
  · simp at h
  · simp at h
  · simp at h
  · rfl

theorem exists_eq_append_dropStep (w : Text) : ∃ step ∈ steps, w = step ++ dropStep w := by
  unfold dropStep
  split
  · exact ⟨['.', '.', '/'], by decide, rfl⟩
  · exact ⟨['.', '/'], by decide, rfl⟩
  · exact ⟨['/'], by decide, rfl⟩
  · exact ⟨[], by decide, rfl⟩

/-- **A word is a name with at most one step in front of it.** -/
theorem isWord_iff {w : Text} : isWord w = true ↔ IsWord w := by
  have hisWord : isWord w = true ↔ dropStep w ≠ [] ∧ ∀ c ∈ dropStep w, InNames c := by
    simp [isWord, isNameChar_iff]
  rw [hisWord]
  constructor
  · rintro ⟨hne, hname⟩
    obtain ⟨step, hstep, hw⟩ := exists_eq_append_dropStep w
    exact ⟨step, dropStep w, hstep, hne, hname, hw⟩
  · rintro ⟨step, name, hstep, hne, hname, rfl⟩
    -- a name holds no slash, so no step is taken from it
    have hdrop : dropStep (step ++ name) = name := by
      have hslash : '/' ∉ name := fun hmem => (hname _ hmem).ne_slash rfl
      simp only [steps, List.mem_cons, List.not_mem_nil, or_false] at hstep
      rcases hstep with rfl | rfl | rfl | rfl
      · exact dropStep_of_notMem hslash
      all_goals rfl
    rw [hdrop]
    exact ⟨hne, hname⟩

theorem IsWord.bounds {w : Text} (h : IsWord w) {c : Char} (hc : c ∈ w) :
    45 ≤ c.toNat ∧ c.toNat ≤ 122 := by
  obtain ⟨step, name, hstep, -, hname, rfl⟩ := h
  rcases List.mem_append.1 hc with hc | hc
  · have hmark : c = '.' ∨ c = '/' := by
      simp only [steps, List.mem_cons, List.not_mem_nil, or_false] at hstep
      rcases hstep with rfl | rfl | rfl | rfl <;> simp at hc <;> tauto
    rcases hmark with rfl | rfl <;> decide
  · exact (hname c hc).bounds

/-- **A word can be written into an include.** -/
theorem IsWord.isWritable {w : Text} (h : IsWord w) : IsWritable w := by
  have hblank : ∀ c ∈ w, Text.isBlank c = false := by
    intro c hc
    have hbounds := h.bounds hc
    simp only [Text.isBlank, Bool.or_eq_false_iff, Bool.and_eq_false_iff, decide_eq_false_iff_not]
    omega
  have hany : ∀ o : Option Char, (∀ c, o = some c → c ∈ w) → o.any Text.isBlank = false := by
    rintro (_ | c) hmem
    · rfl
    · exact hblank c (hmem c rfl)
  refine ⟨?_, hany _ fun c hc => List.mem_of_head? hc, hany _ fun c hc => List.mem_of_getLast? hc,
    fun hmem => ?_, fun hmem => ?_⟩
  · obtain ⟨step, name, -, hne, -, rfl⟩ := h
    simp [hne]
  · exact absurd (h.bounds hmem).2 (by decide)
  · exact absurd (h.bounds hmem).1 (by decide)

/-! ### Selected and found -/

section Line

variable {line front : Text} {span : Span}

theorem wordAt?_eq_some_iff {column : Nat} :
    wordAt? line column = some span ↔
      ∃ k, at? line column = some k ∧ isWord k.content = true ∧ k.span = span := by
  rcases hk : at? line column with _ | k
  · simp [wordAt?, hk]
  · by_cases hword : isWord k.content = true
    · simp [wordAt?, hk, hword]
    · simp [wordAt?, hk, hword]

/-- **What is selected is an include**, and its columns are those of the path. -/
theorem Selects.exists_finds (h : Selects line front span) :
    ∃ p, Recogniser.Finds recognise line p ∧ p.opened = front.length ∧
      isWord (p.token line).content = true ∧ (p.token line).span = span := by
  obtain @⟨blanks, blanks', w, _, hblanks, hblanks', hword, hcloses, rfl⟩ := h
  obtain ⟨gap, gap', back, hgap, hgap', rfl⟩ := hcloses
  have hread := recognise_written hblanks hblanks' hword.isWritable
    (closing?_written hgap hgap' back)
  generalize hopening : commentStart ++ blanks ++ braces ++ blanks' = opening at hread ⊢
  generalize gap ++ closingBraces ++ gap' ++ commentStop = closing at hread ⊢
  have htext : opening ++ w ++ (closing ++ back) = Enclosed.text ⟨opening, w, closing⟩ ++ back := by
    simp [Enclosed.text]
  have hline : front ++ opening ++ w ++ (closing ++ back) =
      front ++ (Enclosed.text ⟨opening, w, closing⟩ ++ back) := by
    rw [← htext]
    simp
  rw [htext] at hread
  rw [hline]
  refine ⟨_, Recogniser.finds_placeAt hread front, rfl, ?_, ?_⟩
  · rw [Enclosed.token_placeAt]
    exact isWord_iff.2 hword
  · rw [Enclosed.token_placeAt]
    rfl

/-- **A word that is found is selected.** -/
theorem exists_selects_of_finds (hfeed : '\n' ∉ line) {p : Place}
    (hp : Recogniser.Finds recognise line p) (hword : isWord (p.token line).content = true) :
    ∃ front, front.length = p.opened ∧ Selects line front (p.token line).span := by
  obtain ⟨front, e, back, rfl, he, rfl⟩ := hp.exists_append recognise_sound recognise_delimited
  have hfeed' : '\n' ∉ e.text := fun hmem =>
    hfeed (List.mem_append_right _ (List.mem_append_left _ hmem))
  obtain ⟨⟨blanks, blanks', hblanks, hblanks', hopening⟩, -⟩ := ends_of_recognise hfeed' he
  have hcloses := (recognise_eq_some he).2.2.2 back
  rw [Enclosed.token_placeAt] at hword ⊢
  refine ⟨front, rfl, ?_⟩
  rw [Enclosed.inside, Token.span, hopening]
  refine .word hblanks hblanks' (isWord_iff.1 hword) hcloses ?_
  rw [← hopening]
  simp [Enclosed.text]

/-- A word that is selected is found, unless an earlier include reaches over it. -/
theorem Selects.wordAt?_eq_some (h : Selects line front span) {column : Nat}
    (hcovers : span.Covers column)
    (hclear : ∀ q, Place.Scanned (Recogniser.Finds recognise line) 0 q → q.opened < front.length →
      q.closed ≤ front.length) : wordAt? line column = some span := by
  obtain ⟨p, hp, hopened, hword, rfl⟩ := h.exists_finds
  have hscanned := Place.scanned_of_clear recognise_delimited hp (Nat.zero_le _)
    (hopened ▸ hclear)
  refine wordAt?_eq_some_iff.2 ⟨p.token line, ?_, hword, rfl⟩
  refine (Token.find?_eq_some_iff_scanned recognise_sound recognise_delimited
    fun _ => Iff.rfl).2 ⟨p, hscanned, ?_, rfl⟩
  rw [← hp.span_token]
  exact hcovers

/-- No include begins before a `<` in a text in which no comment starts. -/
theorem length_le_of_plain (hplain : ¬ commentStart <:+: front) {t : Text} {p : Place}
    (hp : Recogniser.Finds recognise (front ++ '<' :: t) p) : front.length ≤ p.opened := by
  by_contra hlt
  rw [Nat.not_le] at hlt
  obtain ⟨e, he, -⟩ := hp
  have hsplit : front = front.take p.opened ++ front[p.opened] :: front.drop (p.opened + 1) := by
    rw [← List.drop_eq_getElem_cons hlt, List.take_append_drop]
  rw [List.drop_append_of_le_length hlt.le, List.drop_eq_getElem_cons hlt,
    recognise_of_plain hplain (Or.inr ⟨t, rfl⟩) _ _ _ hsplit] at he
  cases he

/-- **Which words are found**: those that the word pattern selects, unless they stand in a comment
that an earlier include reaches into. Where no comment starts before, every word that is selected is
found. -/
theorem wordAt?_eq_some_iff_selects (hfeed : '\n' ∉ line) (column : Nat) (span : Span) :
    (wordAt? line column = some span ↔ span.Covers column ∧ ∃ front, Selects line front span ∧
      ∀ p, Place.Scanned (IsMatch line) 0 p → p.opened < front.length → p.closed ≤ front.length) ∧
    ∀ front, ¬ commentStart <:+: front → Selects line front span → span.Covers column →
      wordAt? line column = some span := by
  have hfound : Recogniser.Finds recognise line = IsMatch line :=
    funext fun p => propext (finds_iff_isMatch hfeed p)
  rw [← hfound]
  refine ⟨⟨fun h => ?_, ?_⟩, fun front hplain h hcovers => ?_⟩
  · obtain ⟨k, hk, hword, rfl⟩ := wordAt?_eq_some_iff.1 h
    obtain ⟨p, hp, hcovers, rfl⟩ := (Token.find?_eq_some_iff_scanned recognise_sound
      recognise_delimited fun _ => Iff.rfl).1 hk
    obtain ⟨front, hfront, hselects⟩ := exists_selects_of_finds hfeed hp.isFound hword
    refine ⟨hp.isFound.span_token.symm ▸ hcovers, front, hselects, fun q hq hlt => ?_⟩
    have hp' := hp.isFound.opened_lt_closed recognise_delimited
    rcases hp.apart recognise_delimited hq with rfl | hbefore | hbehind
    · omega
    · omega
    · omega
  · rintro ⟨hcovers, front, hselects, hclear⟩
    exact hselects.wordAt?_eq_some hcovers hclear
  · refine h.wordAt?_eq_some hcovers fun q hq hlt => ?_
    obtain ⟨t, rfl⟩ : ∃ t, line = front ++ '<' :: t := by
      obtain ⟨-, -, -, -, rfl⟩ := h
      simp [commentStart]
    exact absurd (length_le_of_plain hplain hq.isFound) (Nat.not_le_of_lt hlt)

end Line

/-- Two comments on one line. The word in the second one is found, although a comment starts before
it: the first include ends in time. -/
theorem wordAt?_eq_some_iff_selects_second :
    let line : Text := "<!-- \x7b\x7b a/b \x7d\x7d --><!--\x7b\x7b../c-1.html\x7d\x7d-->".toList
    '\n' ∉ line ∧ Span.Covers ⟨24, 35⟩ 35 ∧ ∃ front, Selects line front ⟨24, 35⟩ ∧
      ∀ p, Place.Scanned (IsMatch line) 0 p → p.opened < front.length →
        p.closed ≤ front.length := by
  intro line
  have hfeed : '\n' ∉ line := by decide
  have hfound : wordAt? line 35 = some ⟨24, 35⟩ := by decide +kernel
  exact ⟨hfeed, ((wordAt?_eq_some_iff_selects hfeed 35 ⟨24, 35⟩).1).1 hfound⟩

/-- **A word that is selected need not be found**: behind a comment that is opened and not closed,
the path reaches from there to the end of the word. -/
theorem wordAt?_misses_selected :
    ¬ ∀ (line : Text) (column : Nat) (span : Span), '\n' ∉ line →
      (wordAt? line column = some span ↔
        span.Covers column ∧ ∃ front, Selects line front span) := by
  intro h
  let line : Text := "<!-- \x7b\x7b <!-- \x7b\x7b a.html \x7d\x7d -->".toList
  have hnone : wordAt? line 18 = none := by decide +kernel
  have hline : line = "<!-- \x7b\x7b ".toList ++
      (commentStart ++ " ".toList ++ braces ++ " ".toList) ++ "a.html".toList ++
      " \x7d\x7d -->".toList := by decide
  have hblank : Text.Blank " ".toList := by decide
  have hword : IsWord "a.html".toList := isWord_iff.1 (by decide)
  have hcloses : Closes " \x7d\x7d -->".toList :=
    ⟨" ".toList, " ".toList, [], hblank, hblank, by decide⟩
  have hfound := (h line 18 _ (by decide)).2
    ⟨by decide +kernel, _, .word hblank hblank hword hcloses hline⟩
  rw [hnone] at hfound
  cases hfound

end Signpost.Include
