import Mathlib.Data.List.TakeWhile
import Signpost.Proofs.Text.Cuts
import Signpost.Token.Include
import Signpost.Token.Script

/-!
# What the scan of a line finds

A recogniser looks at the start of a text and says what it finds there. All that the scan
needs of it is that it finds what is there (`Signpost.Recogniser.Sound`): then every token
of a line stands in it between its two delimiters (`Signpost.Token.mem_scan`), and whatever
comes first in a line is the first token (`Signpost.Token.scan_append`).

Both recognisers of this library are sound, and the two last sections say what stands
around their tokens: an include path is opened and closed by braces in a comment
(`Signpost.Include.Opens`, `Signpost.Include.Closes`), and a script name stands between two
equal quotes.
-/

namespace Signpost

/-! ### Scanning -/

/-- A recogniser that finds what is there. -/
def Recogniser.Sound (recognise : Recogniser) : Prop :=
  ∀ t e, recognise t = some e → ∃ rest, t = e.text ++ rest

/-- The token of a match, given what stands before and after it. -/
def Enclosed.inside (e : Enclosed) (front back : Text) : Token :=
  ⟨front ++ e.opening, e.content, e.closing ++ back⟩

theorem Enclosed.line_inside (e : Enclosed) (front back : Text) :
    (e.inside front back).line = front ++ e.text ++ back := by
  simp [inside, Token.line, text]

namespace Token

variable {recognise : Recogniser}

theorem mem_scanFrom (hsound : recognise.Sound) {k : Token} {skip : Nat} {seen rest : Text}
    (h : k ∈ scanFrom recognise skip seen rest) :
    ∃ front e back, seen.reverse ++ rest = front ++ e.text ++ back ∧
      recognise (e.text ++ back) = some e ∧ k = e.inside front back := by
  fun_induction scanFrom recognise skip seen rest with
  | case1 => cases h
  | case2 skip seen c rest ih => simpa using ih h
  | case3 seen c rest hnone ih => simpa using ih h
  | case4 seen c rest e hsome ih =>
    rcases List.mem_cons.1 h with rfl | h
    · obtain ⟨back, hback⟩ := hsound _ _ hsome
      refine ⟨seen.reverse, e, back, by rw [hback, List.append_assoc], by rw [← hback, hsome], ?_⟩
      rw [hback]
      simp [Enclosed.inside, Enclosed.text]
    · simpa using ih h

/-- **A token of a line stands in it between its delimiters**, and the recogniser finds it
there. -/
theorem mem_scan (hsound : recognise.Sound) {k : Token} {line : Text}
    (h : k ∈ scan recognise line) :
    ∃ front e back, line = front ++ e.text ++ back ∧ recognise (e.text ++ back) = some e ∧
      k = e.inside front back := by
  simpa using mem_scanFrom hsound h

/-- What is found under a column is a token of the line whose span covers the column. -/
theorem find?_eq_some (hsound : recognise.Sound) {k : Token} {line : Text} {column : Nat}
    (h : find? recognise line column = some k) :
    ∃ front e back, line = front ++ e.text ++ back ∧ recognise (e.text ++ back) = some e ∧
      k = e.inside front back ∧ k.span.Covers column := by
  obtain ⟨front, e, back, hline, hsome, hk⟩ := mem_scan hsound (List.mem_of_find?_eq_some h)
  exact ⟨front, e, back, hline, hsome, hk, by simpa using List.find?_some h⟩

theorem scanFrom_append_of_refused {front : Text} {rest : Text}
    (hrefused : ∀ a c b, front = a ++ c :: b → recognise (c :: b ++ rest) = none) (seen : Text) :
    scanFrom recognise 0 seen (front ++ rest) =
      scanFrom recognise 0 (front.reverse ++ seen) rest := by
  induction front generalizing seen with
  | nil => rfl
  | cons c front ih =>
    have hhead := hrefused [] c front rfl
    have hrest : ∀ a d b, front = a ++ d :: b → recognise (d :: b ++ rest) = none :=
      fun a d b h => hrefused (c :: a) d b (by rw [h, List.cons_append])
    rw [List.cons_append] at hhead
    rw [List.cons_append, scanFrom, hhead]
    rw [ih hrest]
    simp

/-- **The first match of a line is its first token**: what is refused at every place of
`front` and found behind it comes first. -/
theorem scan_append {front back : Text} {e : Enclosed} (hne : e.text ≠ [])
    (hrefused : ∀ a c b, front = a ++ c :: b → recognise (c :: b ++ (e.text ++ back)) = none)
    (hfound : recognise (e.text ++ back) = some e) :
    ∃ more, scan recognise (front ++ (e.text ++ back)) = e.inside front back :: more := by
  obtain ⟨c, rest, hrest⟩ := List.exists_cons_of_ne_nil (List.append_ne_nil_of_left_ne_nil hne back)
  have hdrop : (c :: rest).drop (e.opening.length + e.content.length) = e.closing ++ back := by
    rw [← hrest]
    simp [Enclosed.text]
  rw [scan, scanFrom_append_of_refused hrefused, hrest, scanFrom]
  rw [hrest] at hfound
  simp only [hfound, hdrop, List.append_nil, List.reverse_reverse]
  exact ⟨_, rfl⟩

theorem find?_of_first {line : Text} {column : Nat} {k : Token} {more : List Token}
    (hscan : scan recognise line = k :: more) (hcovers : k.span.Covers column) :
    find? recognise line column = some k := by
  rw [find?, hscan, List.find?_cons_of_pos (by simpa using hcovers)]

end Token

/-! ### White space -/

namespace Text

/-- A text of white space only. -/
def Blank (t : Text) : Prop := ∀ c ∈ t, isBlank c = true

instance (t : Text) : Decidable (Blank t) :=
  decidable_of_iff (t.all isBlank = true) List.all_eq_true

theorem Blank.append {t u : Text} (ht : Blank t) (hu : Blank u) : Blank (t ++ u) := by
  intro c hc
  rcases List.mem_append.1 hc with h | h
  · exact ht c h
  · exact hu c h

theorem blank_append_iff {t u : Text} : Blank (t ++ u) ↔ Blank t ∧ Blank u := by
  refine ⟨fun h => ⟨?_, ?_⟩, fun h => h.1.append h.2⟩
  · intro c hc
    exact h c (List.mem_append_left u hc)
  · intro c hc
    exact h c (List.mem_append_right t hc)

theorem blank_takeWhile (t : Text) : Blank (t.takeWhile isBlank) :=
  fun _ hc => List.mem_takeWhile_imp hc

theorem takeWhile_append_trimStart (t : Text) : t.takeWhile isBlank ++ t.trimStart = t :=
  List.takeWhile_append_dropWhile

end Text

/-! ### Includes -/

namespace Include

/-- A text that opens an include at its end: `<!--`, white space, two braces, white space. -/
def Opens (t : Text) : Prop :=
  ∃ front blanks blanks', Text.Blank blanks ∧ Text.Blank blanks' ∧
    t = front ++ commentStart ++ blanks ++ braces ++ blanks'

/-- A text that closes an include at its start: white space, two braces, white space,
`-->`. -/
def Closes (t : Text) : Prop :=
  ∃ blanks blanks' back, Text.Blank blanks ∧ Text.Blank blanks' ∧
    t = blanks ++ closingBraces ++ blanks' ++ commentStop ++ back

theorem opening?_eq_some {t opening rest : Text} (h : opening? t = some (opening, rest)) :
    t = opening ++ rest ∧
      ∃ blanks, Text.Blank blanks ∧ opening = commentStart ++ blanks ++ braces := by
  rcases hu : Text.skip? commentStart t with _ | u
  · simp [opening?, hu] at h
  · rcases hv : Text.skip? braces u.trimStart with _ | v
    · simp [opening?, hu, hv] at h
    · obtain ⟨rfl, rfl⟩ : commentStart ++ u.takeWhile Text.isBlank ++ braces = opening ∧
          v = rest := by
        simpa [opening?, hu, hv] using h
      refine ⟨?_, _, Text.blank_takeWhile u, rfl⟩
      have hsplit := Text.takeWhile_append_trimStart u
      rw [Text.skip?_eq_some_iff.1 hv] at hsplit
      rw [Text.skip?_eq_some_iff.1 hu]
      generalize u.takeWhile Text.isBlank = blanks at hsplit ⊢
      simp [← hsplit]

theorem closing?_eq_some {t closing : Text} (h : closing? t = some closing) :
    ∃ blanks blanks' back, Text.Blank blanks ∧ Text.Blank blanks' ∧
      closing = blanks ++ closingBraces ++ blanks' ++ commentStop ∧ t = closing ++ back := by
  rcases hu : Text.skip? closingBraces t.trimStart with _ | u
  · simp [closing?, hu] at h
  · rcases hv : Text.skip? commentStop u.trimStart with _ | v
    · simp [closing?, hu, hv] at h
    · have hclosing : t.takeWhile Text.isBlank ++ closingBraces ++ u.takeWhile Text.isBlank ++
          commentStop = closing := by simpa [closing?, hu, hv] using h
      refine ⟨_, _, v, Text.blank_takeWhile t, Text.blank_takeWhile u, hclosing.symm, ?_⟩
      have ht := Text.takeWhile_append_trimStart t
      have hu' := Text.takeWhile_append_trimStart u
      rw [Text.skip?_eq_some_iff.1 hu] at ht
      rw [Text.skip?_eq_some_iff.1 hv] at hu'
      rw [← hclosing]
      conv_lhs => rw [← ht, ← hu']
      simp

theorem path?_eq_some {t path closing : Text} (h : path? t = some (path, closing)) :
    path ≠ [] ∧ ∃ rest, t = path ++ rest ∧ closing? rest = some closing := by
  fun_induction path? t generalizing path with
  | case1 => cases h
  | case2 => cases h
  | case3 c t hc closing' hclosing =>
    obtain ⟨rfl, rfl⟩ : [c] = path ∧ closing' = closing := by simpa using h
    exact ⟨by simp, t, rfl, hclosing⟩
  | case4 c t hc hclosing ih =>
    obtain ⟨⟨path', closing'⟩, hpath, heq⟩ := Option.map_eq_some_iff.1 h
    obtain ⟨rfl, rfl⟩ : c :: path' = path ∧ closing' = closing := by simpa using heq
    obtain ⟨-, rest, rfl, hrest⟩ := ih hpath
    exact ⟨by simp, rest, rfl, hrest⟩

theorem blankPath?_eq_some {blanks before path behind : Text}
    (h : blankPath? blanks = some (before, path, behind)) :
    path ≠ [] ∧ blanks = before ++ path ++ behind := by
  unfold blankPath? at h
  split at h
  · cases h
  · rename_i c before' hdrop
    obtain ⟨rfl, rfl, rfl⟩ : before'.reverse = before ∧ [c] = path ∧
        blanks.drop (before'.length + 1) = behind := by simpa using h
    refine ⟨by simp, ?_⟩
    -- what is dropped is a suffix, so what is left is a prefix
    have hsplit : blanks.reverse.takeWhile (· = '\n') ++ c :: before' = blanks.reverse := by
      rw [← hdrop, List.takeWhile_append_dropWhile]
    have hblanks : blanks =
        before'.reverse ++ [c] ++ (blanks.reverse.takeWhile (· = '\n')).reverse := by
      have hrev := congrArg List.reverse hsplit
      simpa using hrev.symm
    conv_lhs => rw [hblanks]
    congr 1
    have hlen : (before'.reverse ++ [c]).length = before'.length + 1 := by simp
    rw [← hlen]
    conv_rhs => rw [hblanks]
    rw [List.drop_left]

/-- **How an include is read**: behind the opening part and its white space stands a path, or
there is none and the path is taken from that white space. -/
theorem recognise_cases {t : Text} {e : Enclosed} (h : recognise t = some e) :
    ∃ opening u, opening? t = some (opening, u) ∧
      ((∃ path closing, path? u.trimStart = some (path, closing) ∧
          e = ⟨opening ++ u.takeWhile Text.isBlank, path, closing⟩) ∨
        ∃ before path behind closing, path? u.trimStart = none ∧
          closing? u.trimStart = some closing ∧
          blankPath? (u.takeWhile Text.isBlank) = some (before, path, behind) ∧
          e = ⟨opening ++ before, path, behind ++ closing⟩) := by
  rcases ho : opening? t with _ | ⟨opening, u⟩
  · simp [recognise, ho] at h
  refine ⟨opening, u, rfl, ?_⟩
  rcases hp : path? u.trimStart with _ | ⟨path, closing⟩
  · rcases hc : closing? u.trimStart with _ | closing
    · simp [recognise, ho, hp, hc] at h
    rcases hb : blankPath? (u.takeWhile Text.isBlank) with _ | ⟨before, path, behind⟩
    · simp [recognise, ho, hp, hc, hb] at h
    refine Or.inr ⟨before, path, behind, closing, rfl, rfl, rfl, ?_⟩
    simpa [recognise, ho, hp, hc, hb] using h.symm
  · refine Or.inl ⟨path, closing, rfl, ?_⟩
    simpa [recognise, ho, hp] using h.symm

/-- **What is found as an include is one**: a path that is not empty, opened and closed by
braces in a comment. -/
theorem recognise_eq_some {t : Text} {e : Enclosed} (h : recognise t = some e) :
    (∃ rest, t = e.text ++ rest) ∧ e.content ≠ [] ∧
      (∀ front, Opens (front ++ e.opening)) ∧ ∀ back, Closes (e.closing ++ back) := by
  obtain ⟨opening, u, ho, hread⟩ := recognise_cases h
  obtain ⟨ht, blanks, hblanks, rfl⟩ := opening?_eq_some ho
  have hu := Text.takeWhile_append_trimStart u
  have hu' := Text.blank_takeWhile u
  rcases hread with ⟨path, closing, hp, rfl⟩ | ⟨before, path, behind, closing, -, hc, hb, rfl⟩
  · obtain ⟨hne, rest, hbody, hrest⟩ := path?_eq_some hp
    obtain ⟨blanks₁, blanks₂, back, h₁, h₂, rfl, rfl⟩ := closing?_eq_some hrest
    refine ⟨⟨back, ?_⟩, hne, fun front => ?_, fun back => ?_⟩
    · rw [hbody] at hu
      rw [ht]
      conv_lhs => rw [← hu]
      simp [Enclosed.text]
    · exact ⟨front, blanks, _, hblanks, hu', by simp⟩
    · exact ⟨blanks₁, blanks₂, back, h₁, h₂, by simp⟩
  · obtain ⟨hne, hsplit⟩ := blankPath?_eq_some hb
    obtain ⟨blanks₁, blanks₂, back, h₁, h₂, rfl, hbody⟩ := closing?_eq_some hc
    rw [hsplit] at hu'
    obtain ⟨hbefore, hbehind⟩ := Text.blank_append_iff.1 hu'
    refine ⟨⟨back, ?_⟩, hne, fun front => ?_, fun back => ?_⟩
    · rw [hsplit, hbody] at hu
      rw [ht, ← hu]
      simp [Enclosed.text]
    · exact ⟨front, blanks, before, hblanks, (Text.blank_append_iff.1 hbefore).1, by simp⟩
    · exact ⟨behind ++ blanks₁, blanks₂, back, hbehind.append h₁, h₂, by simp⟩

theorem recognise_sound : Recogniser.Sound recognise :=
  fun _ _ h => (recognise_eq_some h).1

end Include

/-! ### Script strings -/

namespace Script

/-- One of the two quotes. -/
def IsQuote (c : Char) : Prop :=
  c = '\'' ∨ c = '"'

instance (c : Char) : Decidable (IsQuote c) :=
  inferInstanceAs (Decidable (c = '\'' ∨ c = '"'))

/-- The quote of a string comes right behind what stands before the string. -/
theorem quoteByte_inside {quote : Char} (h : IsQuote quote) (name front back : Text) :
    quoteByte (Enclosed.inside ⟨[quote], name, [quote]⟩ front back) = utf8Length front := by
  have hsize : quote.utf8Size = 1 := by
    rcases h with rfl | rfl <;> decide
  simp [quoteByte, Enclosed.inside, Token.startByte, hsize]

/-- A name ends in one of the endings, and has something before it. -/
theorem isName_iff {t : Text} :
    isName t = true ↔ ∃ stem ending, ending ∈ endings ∧ stem ≠ [] ∧ t = stem ++ ending := by
  simp only [isName, List.any_eq_true, Bool.and_eq_true, decide_eq_true_eq,
    List.isSuffixOf_iff_suffix]
  constructor
  · rintro ⟨ending, hmem, hlt, stem, rfl⟩
    refine ⟨stem, ending, hmem, ?_, rfl⟩
    rintro rfl
    simp at hlt
  · rintro ⟨stem, ending, hmem, hne, rfl⟩
    refine ⟨ending, hmem, ?_, stem, rfl⟩
    have hpos := List.length_pos_iff.2 hne
    rw [List.length_append]
    omega

/-- Nothing starts at a character that is no quote. -/
theorem recognise_of_not_quote {c : Char} (h : ¬ IsQuote c) (t : Text) :
    recognise (c :: t) = none := by
  rw [IsQuote] at h
  simp [recognise, h]

/-- **What is found as a script string is one**: a name without its quote and without a line
feed, between two equal quotes. -/
theorem recognise_eq_some {t : Text} {e : Enclosed} (h : recognise t = some e) :
    ∃ quote rest, IsQuote quote ∧ e = ⟨[quote], e.content, [quote]⟩ ∧ isName e.content = true ∧
      t = e.text ++ rest := by
  cases t with
  | nil => cases h
  | cons quote t =>
    by_cases hq : IsQuote quote
    -- nothing starts at any other character
    swap
    · rw [recognise_of_not_quote hq] at h
      cases h
    have hq' : quote = '\'' ∨ quote = '"' := hq
    simp only [recognise, Bool.or_eq_true, decide_eq_true_eq, if_pos hq'] at h
    generalize hname : t.takeWhile (fun c => c != quote && c != '\n') = name at h
    split at h
    · rename_i c rest hdrop
      split at h
      · rename_i hc
        obtain ⟨rfl, hisName⟩ : c = quote ∧ isName name = true := by simpa using hc
        obtain rfl := Option.some.inj h
        have hprefix : name <+: t := hname ▸ List.takeWhile_prefix _
        have ht := List.prefix_iff_eq_append.1 hprefix
        rw [hdrop] at ht
        exact ⟨c, rest, hq, rfl, hisName, by simp [Enclosed.text, ht]⟩
      · cases h
    · cases h

theorem recognise_sound : Recogniser.Sound recognise := by
  intro t e h
  obtain ⟨quote, rest, -, -, -, ht⟩ := recognise_eq_some h
  exact ⟨rest, ht⟩

/-- **A name between two equal quotes is found**, whatever follows it. -/
theorem recognise_quoted {quote : Char} {name : Text} (hquote : IsQuote quote)
    (hmem : quote ∉ name) (hline : '\n' ∉ name) (hname : isName name = true) (rest : Text) :
    recognise (quote :: (name ++ quote :: rest)) = some ⟨[quote], name, [quote]⟩ := by
  have hq : quote = '\'' ∨ quote = '"' := hquote
  have hall : ∀ c ∈ name, (c != quote && c != '\n') = true := by
    intro c hc
    have h₁ : c ≠ quote := fun h => hmem (h ▸ hc)
    have h₂ : c ≠ '\n' := fun h => hline (h ▸ hc)
    simp [h₁, h₂]
  have htake : (name ++ quote :: rest).takeWhile (fun c => c != quote && c != '\n') = name := by
    rw [List.takeWhile_append_of_pos hall]
    simp
  simp [recognise, hq, htake, hname]

end Script

end Signpost
