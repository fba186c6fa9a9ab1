import Mathlib.Data.List.Basic
import Signpost.Proofs.Token.Scan
import Signpost.Token.Pattern

/-!
# Ways to match

The meaning of a pattern is the list of its ways in their order (`Signpost.Pattern.ways`). There are
two things to know about such a list. The one is **which ways are in it**, whatever their order:
`Signpost.Pattern.Reads` says it of a text with its surroundings, and each constructor has an
equation for it. That is enough wherever only one way is possible, or wherever it only matters that
there is one (`Signpost.Pattern.isMatch_iff`). The other is **which way is the first**, and here the
order is the point. The one case in which it takes care of itself is white space before a text that
starts with something else: all but the longest run of white space are dead ends
(`Signpost.Pattern.ways_many_text`).
-/

namespace Signpost

/-- A list that holds one thing at most starts with it. -/
theorem head?_eq_of_mem_iff {α : Type} {l : List α} {o : Option α}
    (h : ∀ a, a ∈ l ↔ o = some a) : l.head? = o := by
  cases l with
  | nil =>
    rcases o with _ | a
    · rfl
    · exact absurd ((h a).2 rfl) List.not_mem_nil
  | cons a l => exact ((h a).1 List.mem_cons_self).symm

/-! ### Anchors -/

namespace Anchor

variable {isWord : Char → Bool} {before after : Text}

theorem holds_textStart :
    textStart.holds isWord (before ++ after).toArray before.length = true ↔ before = [] := by
  simp [holds]

theorem holds_textEnd :
    textEnd.holds isWord (before ++ after).toArray before.length = true ↔ after = [] := by
  simp [holds]

theorem holds_boundary : boundary.holds isWord (before ++ after).toArray before.length =
    (before.getLast?.any isWord != after.head?.any isWord) := by
  have hbefore : holds.before (before ++ after).toArray before.length isWord =
      before.getLast?.any isWord := by
    rcases before.eq_nil_or_concat' with rfl | ⟨front, c, rfl⟩
    · rfl
    · simp [holds.before]
  have hafter : holds.after (before ++ after).toArray before.length isWord =
      after.head?.any isWord := by
    cases after <;> simp [holds.after]
  rw [holds, hbefore, hafter]

end Anchor

namespace Pattern

variable {before after t : Text} {kind : Regex.Kind} {isLazy : Bool} {p q : Pattern}

/-! ### What a pattern reads -/

/-- **What a pattern reads** between two texts: one of its ways leads over it. -/
def Reads (p : Pattern) (before t after : Text) : Prop :=
  t ∈ p.ways before (t ++ after)

theorem runs_cons_of_pos {c : Char} (hc : kind c = true) (u : Text) :
    runs false kind (c :: u) = (runs false kind u).map (c :: ·) ++ [[]] := by
  rw [runs, if_pos hc]
  rfl

theorem runs_cons_of_neg {c : Char} (hc : ¬ kind c = true) (u : Text) :
    runs isLazy kind (c :: u) = [[]] := by
  rw [runs, if_neg hc]

theorem mem_runs_iff {u : Text} :
    t ∈ runs isLazy kind u ↔ (∀ c ∈ t, kind c = true) ∧ t <+: u := by
  induction u generalizing t with
  | nil =>
    rw [runs, List.mem_singleton, List.prefix_nil]
    refine ⟨?_, And.right⟩
    rintro rfl
    exact ⟨by simp, rfl⟩
  | cons d u ih =>
    have hmem : t ∈ runs isLazy kind (d :: u) ↔
        t = [] ∨ kind d = true ∧ t ∈ (runs isLazy kind u).map (d :: ·) := by
      rw [runs]
      cases isLazy <;> by_cases hd : kind d = true <;> simp [hd, or_comm]
    rw [hmem]
    cases t with
    | nil => simp
    | cons c t =>
      simp only [reduceCtorEq, false_or, List.mem_map, List.cons.injEq, List.cons_prefix_cons,
        List.forall_mem_cons]
      constructor
      · rintro ⟨hd, t, ht, rfl, rfl⟩
        obtain ⟨hall, hpre⟩ := ih.1 ht
        exact ⟨⟨hd, hall⟩, rfl, hpre⟩
      · rintro ⟨⟨hc, hall⟩, rfl, hpre⟩
        exact ⟨hc, t, ih.2 ⟨hall, hpre⟩, rfl, rfl⟩

@[simp] theorem reads_text {s : Text} : (text s).Reads before t after ↔ t = s := by
  rw [Reads, ways]
  split
  · exact List.mem_singleton
  · rename_i hpre
    refine ⟨fun h => absurd h List.not_mem_nil, ?_⟩
    rintro rfl
    exact absurd (List.isPrefixOf_iff_prefix.2 (List.prefix_append t after)) hpre

@[simp] theorem reads_one :
    (one kind).Reads before t after ↔ ∃ c, kind c = true ∧ t = [c] := by
  cases t with
  | nil =>
    refine ⟨fun h => ?_, fun ⟨c, _, h⟩ => nomatch h⟩
    rw [Reads] at h
    cases after with
    | nil => cases h
    | cons c after =>
      rw [List.nil_append, ways] at h
      split at h
      · exact nomatch List.mem_singleton.1 h
      · cases h
  | cons c t =>
    rw [Reads, List.cons_append, ways]
    split
    · rename_i hc
      rw [List.mem_singleton]
      refine ⟨fun h => ⟨c, hc, h⟩, ?_⟩
      rintro ⟨d, -, h⟩
      obtain ⟨rfl, rfl⟩ := List.cons_eq_cons.1 h
      rfl
    · rename_i hc
      refine ⟨fun h => absurd h List.not_mem_nil, ?_⟩
      rintro ⟨d, hd, h⟩
      obtain ⟨rfl, rfl⟩ := List.cons_eq_cons.1 h
      exact absurd hd hc

@[simp] theorem reads_many :
    (many isLazy kind).Reads before t after ↔ ∀ c ∈ t, kind c = true := by
  rw [Reads, ways, mem_runs_iff]
  exact and_iff_left (List.prefix_append t after)

@[simp] theorem reads_check {anchor : Anchor} :
    (check anchor).Reads before t after ↔
      t = [] ∧ anchor.holds Text.isWordChar (before ++ after).toArray before.length = true := by
  rw [Reads, ways]
  split
  · rename_i hholds
    rw [List.mem_singleton]
    refine ⟨?_, And.left⟩
    rintro rfl
    exact ⟨rfl, hholds⟩
  · rename_i hholds
    refine ⟨fun h => absurd h List.not_mem_nil, ?_⟩
    rintro ⟨rfl, h⟩
    exact absurd h hholds

@[simp] theorem reads_either :
    (either p q).Reads before t after ↔ p.Reads before t after ∨ q.Reads before t after := by
  rw [Reads, ways, List.mem_append]
  rfl

/-- Whatever a pattern reads stands at the place. -/
theorem exists_of_mem_ways {u : Text} (h : t ∈ p.ways before u) : ∃ after, u = t ++ after := by
  suffices hpre : t <+: u from hpre.imp fun _ => Eq.symm
  induction p generalizing before t u with
  | text s =>
    rw [ways] at h
    split at h
    · rename_i hpre
      rw [List.mem_singleton.1 h]
      exact List.isPrefixOf_iff_prefix.1 hpre
    · cases h
  | one kind =>
    cases u with
    | nil => cases h
    | cons c u =>
      rw [ways] at h
      split at h
      · rw [List.mem_singleton.1 h]
        exact ⟨u, rfl⟩
      · cases h
  | many isLazy kind => exact (mem_runs_iff.1 h).2
  | check anchor =>
    rw [ways] at h
    split at h
    · rw [List.mem_singleton.1 h]
      exact List.nil_prefix
    · cases h
  | seq p q ihp ihq =>
    obtain ⟨v, hv, hmap⟩ := List.mem_flatMap.1 h
    obtain ⟨w, hw, rfl⟩ := List.mem_map.1 hmap
    obtain ⟨rest, rfl⟩ := ihp hv
    rw [List.drop_left] at hw
    exact (List.prefix_append_right_inj v).2 (ihq hw)
  | either p q ihp ihq =>
    rcases List.mem_append.1 h with h | h
    · exact ihp h
    · exact ihq h

@[simp] theorem reads_seq : (seq p q).Reads before t after ↔
    ∃ u v, t = u ++ v ∧ p.Reads before u (v ++ after) ∧ q.Reads (before ++ u) v after := by
  rw [Reads, ways, List.mem_flatMap]
  constructor
  · rintro ⟨u, hu, hmap⟩
    obtain ⟨v, hv, rfl⟩ := List.mem_map.1 hmap
    rw [List.append_assoc] at hu hv
    rw [List.drop_left] at hv
    exact ⟨u, v, rfl, hu, hv⟩
  · rintro ⟨u, v, rfl, hu, hv⟩
    refine ⟨u, ?_, List.mem_map.2 ⟨v, ?_, rfl⟩⟩
    · rwa [List.append_assoc]
    · rwa [List.append_assoc, List.drop_left]

theorem reads_all_nil : (all []).Reads before t after ↔ t = [] :=
  reads_text

theorem reads_all_cons {rest : List Pattern} : (all (p :: rest)).Reads before t after ↔
    ∃ u v, t = u ++ v ∧ p.Reads before u (v ++ after) ∧ (all rest).Reads (before ++ u) v after :=
  reads_seq

theorem ways_all_singleton : (all [p]).ways before t = p.ways before t := by
  simp [all, ways]

@[simp] theorem reads_all_singleton : (all [p]).Reads before t after ↔ p.Reads before t after := by
  rw [Reads, ways_all_singleton, Reads]

@[simp] theorem reads_all_cons_cons {rest : List Pattern} :
    (all (p :: q :: rest)).Reads before t after ↔ ∃ u v, t = u ++ v ∧
      p.Reads before u (v ++ after) ∧ (all (q :: rest)).Reads (before ++ u) v after :=
  reads_seq

@[simp] theorem reads_optional :
    p.optional.Reads before t after ↔ p.Reads before t after ∨ t = [] := by
  rw [optional, reads_either, reads_text]

@[simp] theorem reads_several :
    (several isLazy kind).Reads before t after ↔ t ≠ [] ∧ ∀ c ∈ t, kind c = true := by
  rw [several, reads_seq]
  simp only [reads_one, reads_many]
  constructor
  · rintro ⟨_, v, rfl, ⟨c, hc, rfl⟩, hv⟩
    exact ⟨by simp, by simpa using ⟨hc, hv⟩⟩
  · rintro ⟨hne, hall⟩
    obtain ⟨c, v, rfl⟩ := List.exists_cons_of_ne_nil hne
    rw [List.forall_mem_cons] at hall
    exact ⟨[c], v, rfl, ⟨c, hall.1, rfl⟩, hall.2⟩

@[simp] theorem reads_blanks : blanks.Reads before t after ↔ Text.Blank t :=
  reads_many

/-- There is a first way if there is any. -/
theorem isSome_first?_iff {u : Text} :
    (p.first? before u).isSome = true ↔ ∃ t after, u = t ++ after ∧ p.Reads before t after := by
  rw [first?, List.isSome_head?]
  constructor
  · intro hne
    obtain ⟨t, ht⟩ := List.exists_mem_of_ne_nil _ hne
    obtain ⟨after, rfl⟩ := exists_of_mem_ways ht
    exact ⟨t, after, rfl, ht⟩
  · rintro ⟨t, after, rfl, ht⟩
    exact List.ne_nil_of_mem ht

/-- **A pattern matches in a text** if it reads some part of it. -/
theorem isMatch_iff {u : Text} :
    p.isMatch u = true ↔ ∃ a t b, u = a ++ (t ++ b) ∧ p.Reads a t b := by
  simp only [isMatch, List.any_eq_true, List.mem_range, isSome_first?_iff]
  constructor
  · rintro ⟨n, -, t, b, hdrop, hreads⟩
    refine ⟨u.take n, t, b, ?_, hreads⟩
    rw [← hdrop, List.take_append_drop]
  · rintro ⟨a, t, b, rfl, hreads⟩
    refine ⟨a.length, by rw [List.length_append]; omega, t, b, ?_, ?_⟩
    · rw [List.drop_left]
    · rwa [List.take_left]

theorem reads_all_textEnd {l : List Pattern} :
    (all (l ++ [check .textEnd])).Reads before t after ↔
      (all l).Reads before t after ∧ after = [] := by
  induction l generalizing before t with
  | nil =>
    simp only [List.nil_append, reads_all_cons, reads_all_nil, reads_check, Anchor.holds_textEnd]
    constructor
    · rintro ⟨_, _, rfl, ⟨rfl, hend⟩, rfl⟩
      exact ⟨rfl, hend⟩
    · rintro ⟨rfl, rfl⟩
      exact ⟨[], [], rfl, ⟨rfl, rfl⟩, rfl⟩
  | cons p l ih =>
    simp only [List.cons_append, reads_all_cons, ih]
    constructor
    · rintro ⟨u, v, rfl, hu, hv, hend⟩
      exact ⟨⟨u, v, rfl, hu, hv⟩, hend⟩
    · rintro ⟨⟨u, v, rfl, hu, hv⟩, hend⟩
      exact ⟨u, v, rfl, hu, hv, hend⟩

/-- **A pattern between the two ends of a text** has to read all of it. -/
theorem isMatch_whole_iff {l : List Pattern} {u : Text} :
    (all (check .textStart :: (l ++ [check .textEnd]))).isMatch u = true ↔
      (all l).Reads [] u [] := by
  simp only [isMatch_iff, reads_all_cons, reads_check, Anchor.holds_textStart, reads_all_textEnd]
  constructor
  · rintro ⟨_, _, _, rfl, _, t, rfl, ⟨rfl, rfl⟩, hreads, rfl⟩
    simpa using hreads
  · intro hreads
    exact ⟨[], u, [], by simp, [], u, rfl, ⟨rfl, rfl⟩, hreads, rfl⟩

/-! ### Which way is the first -/

theorem ways_several_cons (c : Char) (u : Text) : (several isLazy kind).ways before (c :: u) =
    if kind c then (runs isLazy kind u).map (c :: ·) else [] := by
  rw [several, ways, ways]
  split
  · simp [ways]
  · rfl

/-- Behind a fixed text there is one place to go on from. -/
theorem ways_text_seq (s u : Text) : (seq (text s) q).ways before u =
    match Text.skip? s u with
    | some v => (q.ways (before ++ s) v).map (s ++ ·)
    | none => [] := by
  rcases hskip : Text.skip? s u with _ | v
  · have hpre : ¬ s.isPrefixOf u = true := by
      intro h
      obtain ⟨v, rfl⟩ := List.isPrefixOf_iff_prefix.1 h
      rw [Text.skip?_eq_some_iff.2 rfl] at hskip
      cases hskip
    simp [ways, hpre]
  · obtain rfl := Text.skip?_eq_some_iff.1 hskip
    have hpre : s.isPrefixOf (s ++ v) = true :=
      List.isPrefixOf_iff_prefix.2 (List.prefix_append s v)
    simp [ways, hpre]

/-- Where nothing follows at once, a repetition has to take the next character. -/
theorem ways_many_cons {c : Char} (hc : kind c = true) {u : Text}
    (hdead : q.ways before (c :: u) = []) :
    (seq (many isLazy kind) q).ways before (c :: u) =
      ((seq (many isLazy kind) q).ways (before ++ [c]) u).map (c :: ·) := by
  have hmore : ((runs isLazy kind u).map (c :: ·)).flatMap (fun t =>
      (q.ways (before ++ t) ((c :: u).drop t.length)).map (t ++ ·)) =
      ((seq (many isLazy kind) q).ways (before ++ [c]) u).map (c :: ·) := by
    simp only [ways, List.flatMap_map, List.map_flatMap, List.map_map, List.length_cons,
      List.drop_succ_cons, List.append_assoc, List.singleton_append]
    rfl
  rw [ways, ways, runs, if_pos hc, ← hmore]
  cases isLazy <;> simp [hdead]

/-- **Repetition in front of a text that starts with something else** has one way out: it takes all
it can get, whether it is lazy or not. -/
theorem ways_many_text {c : Char} (hc : kind c = false) (s u : Text) :
    (seq (many isLazy kind) (seq (text (c :: s)) q)).ways before u =
      match Text.skip? (c :: s) (u.dropWhile kind) with
      | some v => (q.ways (before ++ u.takeWhile kind ++ c :: s) v).map
          (u.takeWhile kind ++ c :: s ++ ·)
      | none => [] := by
  induction u generalizing before with
  | nil => simp [ways, runs, Text.skip?]
  | cons d u ih =>
    by_cases hd : kind d = true
    · have hne : c ≠ d := by
        rintro rfl
        rw [hc] at hd
        cases hd
      have hdead : (seq (text (c :: s)) q).ways before (d :: u) = [] := by
        rw [ways_text_seq, Text.skip?, if_neg hne]
      rw [ways_many_cons hd hdead, ih, List.dropWhile_cons_of_pos hd, List.takeWhile_cons_of_pos hd]
      rcases Text.skip? (c :: s) (u.dropWhile kind) with _ | v
      · rfl
      · simp
    · rw [List.dropWhile_cons_of_neg hd, List.takeWhile_cons_of_neg hd, ways, ways,
        runs_cons_of_neg hd]
      simp [ways_text_seq]

/-- White space in front of a text that starts with something else. -/
theorem ways_blanks_text {s : Text} (hs : s.head?.map Text.isBlank = some false) (u : Text) :
    (seq blanks (seq (text s) q)).ways before u =
      match Text.skip? s u.trimStart with
      | some v => (q.ways (before ++ u.takeWhile Text.isBlank ++ s) v).map
          (u.takeWhile Text.isBlank ++ s ++ ·)
      | none => [] := by
  cases s with
  | nil => cases hs
  | cons c s => exact ways_many_text (Option.some.inj hs) s u

end Pattern

namespace Frame

/-- The ways of a frame are the ways of its parts, one behind the other. -/
theorem mem_ways_iff {f : Frame} {before after : Text} {e : Enclosed} :
    e ∈ f.ways before after ↔ ∃ rest, after = e.text ++ rest ∧
      f.opening.Reads before e.opening (e.content ++ (e.closing ++ rest)) ∧
      f.content.Reads (before ++ e.opening) e.content (e.closing ++ rest) ∧
      f.closing.Reads (before ++ e.opening ++ e.content) e.closing rest := by
  simp only [ways, List.mem_flatMap, List.mem_map]
  constructor
  · rintro ⟨opening, hopening, content, hcontent, closing, hclosing, rfl⟩
    obtain ⟨u, rfl⟩ := Pattern.exists_of_mem_ways hopening
    rw [List.drop_left] at hcontent hclosing
    obtain ⟨v, rfl⟩ := Pattern.exists_of_mem_ways hcontent
    rw [List.drop_left] at hclosing
    obtain ⟨rest, rfl⟩ := Pattern.exists_of_mem_ways hclosing
    exact ⟨rest, by simp [Enclosed.text], hopening, hcontent, hclosing⟩
  · rintro ⟨rest, rfl, hopening, hcontent, hclosing⟩
    have hafter : e.text ++ rest = e.opening ++ (e.content ++ (e.closing ++ rest)) := by
      simp [Enclosed.text]
    refine ⟨e.opening, hafter ▸ hopening, e.content, ?_, e.closing, ?_, rfl⟩
    · rw [hafter, List.drop_left]
      exact hcontent
    · rw [hafter, List.drop_left, List.drop_left]
      exact hclosing

/-- **The first way of a frame** is the first way to open it that can be gone on with. -/
theorem first?_singleton (f : Frame) (before after : Text) :
    first? [f] before after = (f.opening.ways before after).findSome? fun opening =>
      (f.content.ways (before ++ opening) (after.drop opening.length)).findSome? fun content =>
        (f.closing.first? (before ++ opening ++ content)
          ((after.drop opening.length).drop content.length)).map fun closing =>
            ⟨opening, content, closing⟩ := by
  simp only [first?, List.flatMap_singleton, ways, List.head?_flatMap, List.head?_map,
    Pattern.first?]

theorem first?_bare (p : Pattern) (before after : Text) :
    first? [bare p] before after = (p.first? before after).map fun t => ⟨[], t, []⟩ := by
  have hways : (bare p).ways before after = (p.ways before after).map fun t => ⟨[], t, []⟩ := by
    simp [ways, bare, Pattern.ways, List.map_eq_flatMap]
  rw [first?, List.flatMap_singleton, hways, List.head?_map, Pattern.first?]

/-! ### Scanning -/

/-- **A recogniser that says what some frames match** finds in a line what the frames do. -/
theorem scan_eq {recognise : Recogniser} {frames : List Frame}
    (h : ∀ before after, recognise after = first? frames before after) (line : Text) :
    Token.scan recognise line = scan frames line := by
  have hfrom : ∀ rest skip seen, Token.scanFrom recognise skip seen rest =
      scanFrom frames skip seen.reverse rest := by
    intro rest
    induction rest with
    | nil =>
      intro skip seen
      rw [Token.scanFrom, scanFrom]
    | cons c rest ih =>
      intro skip seen
      cases skip with
      | zero =>
        rw [Token.scanFrom, scanFrom, ← h, ← List.reverse_cons]
        rcases recognise (c :: rest) with _ | e
        · exact ih 0 (c :: seen)
        · exact congrArg _ (ih (e.width - 1) (c :: seen))
      | succ skip =>
        rw [Token.scanFrom, scanFrom, ← List.reverse_cons]
        exact ih skip (c :: seen)
  exact hfrom line 0 []

end Frame

end Signpost
