import Mathlib.Data.List.TakeWhile
import Signpost.Proofs.Text.Lines
import Signpost.Proofs.Token.Scan
import Signpost.Token.Construction

/-!
# The walk back decides one grammar

The walk from a quote back to its `new` reads one line at a time and may stop early. What it
decides can be said in one go, about the whole text that it is allowed to look at: that text
**ends in a construction** (`Signpost.Construction.Ends`), which is the keyword, white space,
the name of a worker class, a parenthesis, and white space between and behind them. That is
`Signpost.Construction.walk_eq_true_iff`.

Two observations carry the proof. Everything behind the keyword is free of the letter `n`, so
the keyword of a construction is the last one of the text, and it does not matter how much of
the text has been read when it is found (`Signpost.Construction.ends_iff`). And what a
construction has behind a line feed is the tail of one, so the walk never stops early in the
middle of a construction (`Signpost.Construction.isTail_of_ends`).
-/

namespace Signpost

namespace Text

/-- No white space is part of a word. -/
theorem isWordChar_of_isBlank {c : Char} (h : isBlank c = true) : isWordChar c = false := by
  have hcode : ∀ n ∈ [0x09, 0x0A, 0x0B, 0x0C, 0x0D, 0x20], (Char.ofNat n).isAlphanum = false ∧
      Char.ofNat n ≠ '_' := by decide
  have htable : ∀ n ∈ [0x85, 0xA0, 0x1680, 0x2000, 0x2001, 0x2002, 0x2003, 0x2004, 0x2005, 0x2006,
      0x2007, 0x2008, 0x2009, 0x200A, 0x2028, 0x2029, 0x202F, 0x205F, 0x3000],
      inRanges wordRanges n = false := by decide +kernel
  have hc : Char.ofNat c.toNat = c := Char.ofNat_toNat c
  rw [isWordChar]
  split
  -- below 0x80 the six blanks are tested one by one, above it the table is
  · rename_i hlow
    have hmem : c.toNat ∈ [0x09, 0x0A, 0x0B, 0x0C, 0x0D, 0x20] := by
      simp only [isBlank, Bool.or_eq_true, Bool.and_eq_true, decide_eq_true_eq] at h
      simp only [List.mem_cons, List.not_mem_nil, or_false]
      omega
    have hword := hcode _ hmem
    rw [hc] at hword
    simp [hword]
  · rename_i hhigh
    refine htable _ ?_
    simp only [isBlank, Bool.or_eq_true, Bool.and_eq_true, decide_eq_true_eq] at h
    simp only [List.mem_cons, List.not_mem_nil, or_false]
    omega

theorem Blank.ne_of_mem {t : Text} (h : Blank t) {c : Char} (hc : isBlank c = false) : c ∉ t := by
  intro hmem
  rw [h c hmem] at hc
  cases hc

theorem trimStart_append_of_blank {t : Text} (h : Blank t) (u : Text) :
    trimStart (t ++ u) = trimStart u := by
  rw [trimStart, List.dropWhile_append_of_pos h]
  rfl

theorem trimStart_of_blank {t : Text} (h : Blank t) : trimStart t = [] := by
  have htrim := trimStart_append_of_blank h []
  rwa [List.append_nil] at htrim

theorem trimStart_cons {c : Char} (h : isBlank c = false) (t : Text) :
    trimStart (c :: t) = c :: t := by
  simp [trimStart, h]

end Text

namespace Construction

/-! ### Constructions -/

/-- The keyword of a construction. -/
def keyword : Text := ['n', 'e', 'w']

/-- The name of a worker class. -/
def IsClass (name : Text) : Prop :=
  name = worker ∨ name = sharedWorker

/-- **What stands between the keyword and the first argument**: white space, the name of a
worker class, and a parenthesis, with white space around it. -/
def Introduces (t : Text) : Prop :=
  ∃ blanks name blanks' blanks'', Text.Blank blanks ∧ blanks ≠ [] ∧ IsClass name ∧
    Text.Blank blanks' ∧ Text.Blank blanks'' ∧ t = blanks ++ name ++ blanks' ++ '(' :: blanks''

/-- **A text that ends in a construction**, up to its first argument. The keyword is a word
of its own. -/
def Ends (t : Text) : Prop :=
  ∃ front rest, front.getLast?.any Text.isWordChar = false ∧ Introduces rest ∧
    t = front ++ keyword ++ rest

theorem IsClass.head {name : Text} (h : IsClass name) :
    ∃ c rest, name = c :: rest ∧ Text.isBlank c = false := by
  rcases h with rfl | rfl
  · exact ⟨'W', _, rfl, by decide⟩
  · exact ⟨'S', _, rfl, by decide⟩

theorem IsClass.notMem {name : Text} (h : IsClass name) : 'n' ∉ name ∧ '\n' ∉ name := by
  rcases h with rfl | rfl <;> decide

theorem className?_append {name : Text} (h : IsClass name) (t : Text) :
    className? (name ++ t) = some t := by
  rcases h with rfl | rfl
  · simp [className?, worker, sharedWorker, Text.skip?]
  · simp [className?, worker, sharedWorker, Text.skip?]

theorem trimStart_class {blanks name : Text} (h : Text.Blank blanks) (hname : IsClass name)
    (rest : Text) : Text.trimStart (blanks ++ name ++ rest) = name ++ rest := by
  obtain ⟨c, tail, hc, hblank⟩ := hname.head
  rw [List.append_assoc, Text.trimStart_append_of_blank h, hc]
  exact Text.trimStart_cons hblank _

theorem trimStart_opening {blanks : Text} (h : Text.Blank blanks) (rest : Text) :
    Text.trimStart (blanks ++ '(' :: rest) = '(' :: rest := by
  rw [Text.trimStart_append_of_blank h]
  exact Text.trimStart_cons (by decide) _

theorem className?_eq_some {t rest : Text} (h : className? t = some rest) :
    ∃ name, IsClass name ∧ t = name ++ rest := by
  rcases Option.or_eq_some_iff.1 h with h | ⟨-, h⟩
  · exact ⟨sharedWorker, Or.inr rfl, Text.skip?_eq_some_iff.1 h⟩
  · exact ⟨worker, Or.inl rfl, Text.skip?_eq_some_iff.1 h⟩

theorem isOpening_iff {t : Text} :
    isOpening t = true ↔ ∃ blanks, Text.Blank blanks ∧ t = '(' :: blanks := by
  unfold isOpening
  split
  · rename_i rest
    simp [Text.Blank]
  · rename_i hne
    refine ⟨nofun, ?_⟩
    rintro ⟨blanks, -, rfl⟩
    exact absurd rfl (hne blanks)

/-- What follows a keyword in a construction is decided by its parts in order. -/
theorem followsKeyword_iff {t : Text} : followsKeyword t = true ↔ Introduces t := by
  constructor
  · intro h
    obtain ⟨hhead, hrest⟩ := Bool.and_eq_true_iff.1 h
    rcases hclass : className? t.trimStart with _ | rest
    · simp [hclass] at hrest
    rw [hclass] at hrest
    obtain ⟨name, hname, htrim⟩ := className?_eq_some hclass
    obtain ⟨blanks'', hblanks'', hopening⟩ := isOpening_iff.1 hrest
    have ht := Text.takeWhile_append_trimStart t
    have hr := Text.takeWhile_append_trimStart rest
    refine ⟨t.takeWhile Text.isBlank, name, rest.takeWhile Text.isBlank, blanks'',
      Text.blank_takeWhile t, ?_, hname, Text.blank_takeWhile rest, hblanks'', ?_⟩
    · cases t with
      | nil => cases hhead
      | cons c t =>
        have hc : Text.isBlank c = true := hhead
        simp [hc]
    · rw [← hopening, List.append_assoc _ _ rest.trimStart, hr, List.append_assoc, ← htrim, ht]
  · rintro ⟨blanks, name, blanks', blanks'', hblanks, hne, hname, hblanks', hblanks'', rfl⟩
    obtain ⟨c, more, hcons⟩ := List.exists_cons_of_ne_nil hne
    have hc : Text.isBlank c = true := hblanks c (hcons ▸ List.mem_cons_self)
    refine Bool.and_eq_true_iff.2 ⟨by simp [hcons, hc], ?_⟩
    rw [List.append_assoc, trimStart_class hblanks hname, className?_append hname]
    exact isOpening_iff.2 ⟨blanks'', hblanks'', trimStart_opening hblanks' _⟩

/-- There is no further keyword behind the keyword of a construction. -/
theorem Introduces.notMem {t : Text} (h : Introduces t) : 'n' ∉ t := by
  obtain ⟨blanks, name, blanks', blanks'', hblanks, -, hname, hblanks', hblanks'', rfl⟩ := h
  have hn : Text.isBlank 'n' = false := by decide
  simp [hblanks.ne_of_mem hn, hname.notMem.1, hblanks'.ne_of_mem hn, hblanks''.ne_of_mem hn]

theorem Introduces.head {t : Text} (h : Introduces t) : t.head?.any Text.isWordChar = false := by
  obtain ⟨blanks, name, blanks', blanks'', hblanks, hne, -, -, -, rfl⟩ := h
  obtain ⟨c, more, rfl⟩ := List.exists_cons_of_ne_nil hne
  have hc := hblanks c List.mem_cons_self
  simp [Text.isWordChar_of_isBlank hc]

/-! ### The last keyword -/

theorem keyword?_eq_some_iff {previous : Option Char} {t rest : Text} :
    keyword? previous t = some rest ↔ t = keyword ++ rest ∧
      previous.any Text.isWordChar = false ∧ rest.head?.any Text.isWordChar = false := by
  unfold keyword?
  split
  · rename_i rest'
    by_cases hword : (previous.any Text.isWordChar || rest'.head?.any Text.isWordChar) = true
    · rw [if_pos hword]
      refine ⟨nofun, ?_⟩
      rintro ⟨heq, hprevious, hhead⟩
      obtain rfl : rest' = rest := by simpa [keyword] using heq
      simp [hprevious, hhead] at hword
    · rw [if_neg hword]
      simp only [Bool.or_eq_true, not_or, Bool.not_eq_true] at hword
      constructor
      · intro h
        obtain rfl := Option.some.inj h
        exact ⟨rfl, hword⟩
      · rintro ⟨heq, -, -⟩
        obtain rfl : rest' = rest := by simpa [keyword] using heq
        rfl
  · rename_i hne
    refine ⟨nofun, ?_⟩
    rintro ⟨rfl, -, -⟩
    exact absurd rfl (hne rest)

/-- Of what stands before a text, only its last character matters, and of that only whether
it is part of a word. -/
theorem lastKeyword?_congr {p q : Option Char}
    (h : p.any Text.isWordChar = q.any Text.isWordChar) (t : Text) :
    lastKeyword? p t = lastKeyword? q t := by
  cases t with
  | nil => rfl
  | cons c t =>
    rw [lastKeyword?, lastKeyword?]
    congr 1
    unfold keyword?
    split
    · rw [h]
    · rfl

theorem lastKeyword?_append_of_some {previous : Option Char} {a b rest : Text}
    (h : lastKeyword? (a.getLast?.or previous) b = some rest) :
    lastKeyword? previous (a ++ b) = some rest := by
  induction a generalizing previous with
  | nil => simpa using h
  | cons c a ih =>
    have htail : lastKeyword? (some c) (a ++ b) = some rest := by
      refine ih ?_
      rw [← h]
      rw [List.getLast?_cons]
      cases a.getLast? <;> rfl
    rw [List.cons_append, lastKeyword?, htail]
    rfl

theorem lastKeyword?_eq_some {previous : Option Char} {t rest : Text}
    (h : lastKeyword? previous t = some rest) :
    ∃ front, t = front ++ keyword ++ rest ∧
      (front.getLast?.or previous).any Text.isWordChar = false := by
  induction t generalizing previous with
  | nil => cases h
  | cons c t ih =>
    rw [lastKeyword?] at h
    rcases Option.or_eq_some_iff.1 h with h | ⟨-, h⟩
    · obtain ⟨front, rfl, hfront⟩ := ih h
      refine ⟨c :: front, rfl, ?_⟩
      rw [List.getLast?_cons]
      cases hlast : front.getLast? <;> simpa [hlast] using hfront
    · obtain ⟨ht, hprevious, -⟩ := keyword?_eq_some_iff.1 h
      exact ⟨[], ht, hprevious⟩

theorem lastKeyword?_of_notMem {t : Text} (h : 'n' ∉ t) (previous : Option Char) :
    lastKeyword? previous t = none := by
  rcases hlast : lastKeyword? previous t with _ | rest
  · rfl
  · obtain ⟨front, rfl, -⟩ := lastKeyword?_eq_some hlast
    exact absurd (by simp [keyword]) h

/-- The keyword of a construction is the last one of its text. -/
theorem lastKeyword?_of_introduces {front rest : Text}
    (hfront : front.getLast?.any Text.isWordChar = false) (hrest : Introduces rest) :
    lastKeyword? none (front ++ keyword ++ rest) = some rest := by
  have hkeyword : keyword? front.getLast? (keyword ++ rest) = some rest :=
    keyword?_eq_some_iff.2 ⟨rfl, hfront, hrest.head⟩
  -- nothing behind the first letter of the keyword is a keyword
  have hlater : lastKeyword? (some 'n') ('e' :: 'w' :: rest) = none := by
    refine lastKeyword?_of_notMem ?_ _
    simp [hrest.notMem]
  rw [List.append_assoc]
  refine lastKeyword?_append_of_some ?_
  rw [Option.or_none]
  change (lastKeyword? (some 'n') ('e' :: 'w' :: rest)).or
    (keyword? front.getLast? (keyword ++ rest)) = some rest
  rw [hlater, hkeyword]
  rfl

/-- **A text ends in a construction if one follows its last keyword.** -/
theorem ends_iff {t : Text} :
    Ends t ↔ ∃ rest, lastKeyword? none t = some rest ∧ Introduces rest := by
  constructor
  · rintro ⟨front, rest, hfront, hrest, rfl⟩
    exact ⟨rest, lastKeyword?_of_introduces hfront hrest, hrest⟩
  · rintro ⟨rest, hlast, hrest⟩
    obtain ⟨front, rfl, hfront⟩ := lastKeyword?_eq_some hlast
    exact ⟨front, rest, by simpa using hfront, hrest, rfl⟩

/-! ### Tails -/

theorem isTail_blank {blanks : Text} (h : Text.Blank blanks) : isTail blanks = true := by
  have hclass : className? [] = none := by rfl
  simp [isTail, Text.trimStart_of_blank h, hclass]

theorem isTail_opening {blanks blanks' : Text} (h : Text.Blank blanks) (h' : Text.Blank blanks') :
    isTail (blanks ++ '(' :: blanks') = true := by
  have htrim := trimStart_opening h blanks'
  have hclass : className? ('(' :: blanks') = none := by
    simp [className?, sharedWorker, worker, Text.skip?]
  have hopening : isOpening ('(' :: blanks') = true := isOpening_iff.2 ⟨blanks', h', rfl⟩
  simp [isTail, htrim, hclass, hopening]

theorem isTail_class {blanks name blanks' blanks'' : Text} (h : Text.Blank blanks)
    (hname : IsClass name) (h' : Text.Blank blanks') (h'' : Text.Blank blanks'') :
    isTail (blanks ++ name ++ blanks' ++ '(' :: blanks'') = true := by
  have htrim := trimStart_class h hname (blanks' ++ '(' :: blanks'')
  have hopening : isOpening ('(' :: blanks'') = true := isOpening_iff.2 ⟨blanks'', h'', rfl⟩
  rw [List.append_assoc]
  simp only [isTail, htrim, className?_append hname, trimStart_opening h', hopening, Bool.or_true]

/-- A character of two texts in a row is in the first or in the second. -/
theorem append_eq_append_cons {a b x s : Text} {c : Char} (h : a ++ b = x ++ c :: s) :
    (∃ a', a = x ++ c :: a' ∧ s = a' ++ b) ∨ ∃ x', x = a ++ x' ∧ b = x' ++ c :: s := by
  rcases List.append_eq_append_iff.1 h with ⟨x', rfl, hb⟩ | ⟨a', rfl, ha⟩
  · exact Or.inr ⟨x', rfl, hb⟩
  · cases a' with
    | nil => exact Or.inr ⟨[], by simp, by simpa using ha.symm⟩
    | cons d a' =>
      obtain ⟨rfl, rfl⟩ : c = d ∧ s = a' ++ b := by simpa using ha
      exact Or.inl ⟨a', rfl, rfl⟩

/-- What a construction has behind a line feed is the tail of one. -/
theorem Introduces.isTail {t x s : Text} (h : Introduces t) (ht : t = x ++ '\n' :: s) :
    Construction.isTail s = true := by
  obtain ⟨blanks, name, blanks', blanks'', hblanks, -, hname, hblanks', hblanks'', rfl⟩ := h
  have hbehind : ∀ {a a' : Text}, Text.Blank (a ++ '\n' :: a') → Text.Blank a' :=
    fun h c hc => h c (by simp [hc])
  -- the line feed is in one of the three runs of white space
  rcases append_eq_append_cons ht with ⟨a, ha, rfl⟩ | ⟨x₁, rfl, h₁⟩
  · rcases append_eq_append_cons ha with ⟨b, hb, rfl⟩ | ⟨x₁, rfl, h₁⟩
    · rcases append_eq_append_cons hb with ⟨d, rfl, rfl⟩ | ⟨x₁, rfl, rfl⟩
      · exact isTail_class (hbehind hblanks) hname hblanks' hblanks''
      · exact absurd (by simp) hname.notMem.2
    · rw [h₁] at hblanks'
      exact isTail_opening (hbehind hblanks') hblanks''
  · cases x₁ with
    | nil => simp at h₁
    | cons d x₁ =>
      obtain ⟨-, rfl⟩ : '(' = d ∧ blanks'' = x₁ ++ '\n' :: s := by simpa using h₁
      exact isTail_blank (hbehind hblanks'')

/-! ### More lines in front -/

theorem any_getLast?_of_closed {t : Text} (h : Text.Closed t) :
    t.getLast?.any Text.isWordChar = false := by
  rcases h with rfl | ⟨front, rfl⟩
  · rfl
  · have hword : Text.isWordChar '\n' = false := by decide
    simpa using hword

/-- **Once a keyword is found, more lines change nothing.** -/
theorem ends_append_iff_of_some {above search rest : Text} (habove : Text.Closed above)
    (h : lastKeyword? none search = some rest) : Ends (above ++ search) ↔ Introduces rest := by
  have hlast : lastKeyword? none (above ++ search) = some rest := by
    refine lastKeyword?_append_of_some ?_
    rw [← h, Option.or_none]
    exact lastKeyword?_congr (any_getLast?_of_closed habove) search
  rw [ends_iff]
  constructor
  · rintro ⟨rest', hrest', hintro⟩
    rw [hlast] at hrest'
    exact Option.some.inj hrest' ▸ hintro
  · intro hintro
    exact ⟨rest, hlast, hintro⟩

/-- **The walk does not stop too early**: a text without a keyword that ends in a
construction, once lines are put in front of it, is a tail. -/
theorem isTail_of_ends {above search : Text} (habove : Text.Closed above)
    (h : lastKeyword? none search = none) (hends : Ends (above ++ search)) :
    isTail search = true := by
  have hnot : ¬ Ends search := by
    rw [ends_iff, h]
    rintro ⟨rest, hrest, -⟩
    cases hrest
  rcases habove with rfl | ⟨x, rfl⟩
  · exact absurd hends hnot
  obtain ⟨front, rest, hfront, hrest, heq⟩ := hends
  have hcut : front ++ (keyword ++ rest) = x ++ '\n' :: search := by simpa using heq.symm
  rcases append_eq_append_cons hcut with ⟨front', rfl, rfl⟩ | ⟨x', rfl, hx'⟩
  · -- the keyword would be in the text itself
    refine absurd ⟨front', rest, ?_, hrest, by simp⟩ hnot
    cases front' with
    | nil => rfl
    | cons c front' => simpa [List.getLast?_append, List.getLast?_cons] using hfront
  · rcases append_eq_append_cons hx' with ⟨k, hk, -⟩ | ⟨x₂, -, hx₂⟩
    · have hmem : '\n' ∈ keyword := hk ▸ by simp
      exact absurd hmem (by decide)
    · exact hrest.isTail hx₂

/-! ### The walk -/

/-- Lines of a document from line `low` up to line `index`, each with its line feed. -/
def above (line : Nat → Option Text) (low index : Nat) : Text :=
  (List.range' low (index - low)).flatMap fun n => (line n).getD [] ++ ['\n']

/-- **What the walk may look at**: the lines from line `low` on, and line `index` up to the
quote. -/
def window (line : Nat → Option Text) (low index : Nat) (front : Text) : Text :=
  above line low index ++ front

variable {line : Nat → Option Text}

theorem closed_above (low index : Nat) : Text.Closed (above line low index) := by
  unfold above
  generalize List.range' low (index - low) = numbers
  induction numbers with
  | nil => exact Text.closed_nil
  | cons n numbers ih =>
    rw [List.flatMap_cons]
    exact (Text.closed_snoc _).append ih

@[simp] theorem window_self (index : Nat) (front : Text) :
    window line index index front = front := by
  simp [window, above]

/-- One more line in front of a text shortens what stands above it. -/
theorem window_succ {low index : Nat} {previous : Text} (hlow : low ≤ index)
    (hline : line index = some previous) (front : Text) :
    window line low (index + 1) front = window line low index (previous ++ '\n' :: front) := by
  have hcount : index + 1 - low = (index - low) + 1 := by omega
  have hlast : low + (index - low) = index := by omega
  simp [window, above, hcount, List.range'_concat, hlast, hline]

/-- **The walk decides whether the text it may look at ends in a construction.** -/
theorem walk_eq_true_iff (budget : Nat) {index : Nat} (search : Text) (hbudget : budget ≤ index)
    (hlines : ∀ n, index - budget ≤ n → n < index → (line n).isSome) :
    walk line index budget search = true ↔ Ends (window line (index - budget) index search) := by
  induction budget generalizing index search with
  | zero =>
    rw [walk, Nat.sub_zero, window_self, ends_iff]
    rcases h : lastKeyword? none search with _ | rest
    · simp
    · simpa using followsKeyword_iff
  | succ budget ih =>
    rw [walk]
    rcases h : lastKeyword? none search with _ | rest
    -- no keyword yet: the walk goes on as long as it has seen a tail
    · by_cases htail : isTail search = true
      · obtain ⟨index, rfl⟩ : ∃ i, index = i + 1 := ⟨index - 1, by omega⟩
        obtain ⟨previous, hprevious⟩ :=
          Option.isSome_iff_exists.1 (hlines index (by omega) (by omega))
        have hle : budget ≤ index := by omega
        have hstep := ih (previous ++ '\n' :: search) hle
          fun n hn hlt => hlines n (by omega) (by omega)
        rw [Nat.add_sub_add_right, window_succ (by omega) hprevious]
        simpa [htail, hprevious] using hstep
      · have hnot : ¬ Ends (window line (index - (budget + 1)) index search) :=
          fun hends => htail (isTail_of_ends (closed_above _ _) h hends)
        simp [htail, hnot]
    -- the keyword decides, and the lines above it do not matter
    · rw [window, ends_append_iff_of_some (closed_above _ _) h]
      exact followsKeyword_iff

theorem lowest_le (index limit : Nat) (declaration : Option Range) :
    lowest index limit declaration ≤ index := by
  unfold lowest
  dsimp only
  split
  · split <;> omega
  · omega

/-- **What is verified of a quote**: the lines from the lowest one on, and the line up to the
quote, end in a construction. -/
theorem verify_eq_true_iff {index limit : Nat} {declaration : Option Range} {front back : Text}
    (hline : line index = some (front ++ back))
    (hlines : ∀ n, lowest index limit declaration ≤ n → n < index → (line n).isSome) :
    verify line index (utf8Length front) limit declaration = true ↔
      Ends (window line (lowest index limit declaration) index front) := by
  have hle := lowest_le index limit declaration
  have hlow : index - (index - lowest index limit declaration) =
      lowest index limit declaration := by
    omega
  have hwalk := walk_eq_true_iff (index - lowest index limit declaration) front (Nat.sub_le _ _)
    (by rw [hlow]; exact hlines)
  rw [hlow] at hwalk
  rw [verify, hline, Option.bind_some, Text.splitBytes?_append]
  exact hwalk

end Construction

end Signpost
