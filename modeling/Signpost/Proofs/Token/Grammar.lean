import Signpost.Proofs.Token.Leftmost
import Signpost.Proofs.Token.Retarget

/-!
# The two grammars, told by offsets

The recognisers of this library read a text from its start on. This file says in terms of a whole
line and its offsets where an include lies (`Signpost.Include.IsMatch`) and where a script string
lies (`Signpost.Script.IsMatch`), and that the recognisers find just these
(`Signpost.Include.finds_iff_isMatch`, `Signpost.Script.finds_iff_isMatch`). With the leftmost scan
of `Signpost.Place.Scanned` this tells everything about what is under a column of a line
(`Signpost.Include.at?_decides_grammar`, `Signpost.Script.at?_decides_strings`).

For a script string there is little to it: a string ends at the next quote of its kind. For an
include, the one thing to know is that **a path is closed as early as possible**, but never at its
own start. So behind the opening part and all the white space that follows, the first closing part
further on decides (`Signpost.Include.length_le_of_path?`), even if it belongs to another comment.
Only if there is none, a closing part that stands right there counts, and the path is taken from the
white space (`Signpost.Include.blankPath?_eq_some_iff`).
-/

namespace Signpost

theorem Text.isBlank_of_head?_trimStart {t : Text} {c : Char} (h : t.trimStart.head? = some c) :
    Text.isBlank c = false := by
  have hhead := List.head?_dropWhile_not Text.isBlank t
  rw [Text.trimStart] at h
  simpa [h] using hhead

namespace Include

/-! ### The parts of an include -/

/-- **The line opens an include at an offset**: it reads `<!--`, white space, two braces and `gap`
there, and `gap` is all the white space up to the offset `body`. -/
def OpensAt (line : Text) (i : Nat) (gap : Text) (body : Nat) : Prop :=
  ∃ blanks, Text.Blank blanks ∧ Text.Blank gap ∧
    commentStart ++ blanks ++ braces ++ gap <+: line.drop i ∧
    body = i + (commentStart ++ blanks ++ braces ++ gap).length ∧
    ∀ c, (line.drop body).head? = some c → Text.isBlank c = false

/-- **The line closes an include at an offset**: it reads white space, two braces, white space and
`-->` there, up to the offset `stop`. -/
def ClosesAt (line : Text) (i stop : Nat) : Prop :=
  ∃ blanks blanks', Text.Blank blanks ∧ Text.Blank blanks' ∧
    blanks ++ closingBraces ++ blanks' ++ commentStop <+: line.drop i ∧
    stop = i + (blanks ++ closingBraces ++ blanks' ++ commentStop).length

/-- **The places of a line at which an include lies.** -/
inductive IsMatch (line : Text) : Place → Prop
  /-- The path reaches from behind the white space to the first closing part behind it. -/
  | path {i body stop closed : Nat} {gap : Text} (hopens : OpensAt line i gap body)
      (hlt : body < stop) (hcloses : ClosesAt line stop closed)
      (hfirst : ∀ e f, body < e → ClosesAt line e f → stop ≤ e) :
      IsMatch line ⟨i, body, stop, closed⟩
  /-- No closing part comes later, but one stands right behind the white space: its last character
  is the path. -/
  | blank {i body closed : Nat} {gap : Text} (hopens : OpensAt line i gap body)
      (hgap : gap ≠ []) (hnone : ∀ e f, body < e → ¬ ClosesAt line e f)
      (hcloses : ClosesAt line body closed) :
      IsMatch line ⟨i, body - 1, body, closed⟩

theorem closing?_written {blanks blanks' : Text} (h : Text.Blank blanks) (h' : Text.Blank blanks')
    (back : Text) :
    closing? (blanks ++ closingBraces ++ blanks' ++ commentStop ++ back) =
      some (blanks ++ closingBraces ++ blanks' ++ commentStop) := by
  have hbrace : Text.isBlank '}' = false := by decide
  have hdash : Text.isBlank '-' = false := by decide
  have htext : blanks ++ closingBraces ++ blanks' ++ commentStop ++ back =
      blanks ++ '}' :: '}' :: (blanks' ++ '-' :: '-' :: '>' :: back) := by
    simp [closingBraces, commentStop]
  have hbraces : Text.skip? closingBraces ('}' :: '}' :: (blanks' ++ '-' :: '-' :: '>' :: back)) =
      some (blanks' ++ '-' :: '-' :: '>' :: back) :=
    Text.skip?_eq_some_iff.2 (by simp [closingBraces])
  have hstop : Text.skip? commentStop ('-' :: '-' :: '>' :: back) = some back :=
    Text.skip?_eq_some_iff.2 (by simp [commentStop])
  rw [htext, closing?]
  simp only [Option.bind_eq_bind, Option.bind_some, Text.trimStart_append_of_blank h,
    Text.trimStart_cons hbrace, Text.takeWhile_append_of_blank h hbrace, hbraces,
    Text.trimStart_append_of_blank h', Text.trimStart_cons hdash,
    Text.takeWhile_append_of_blank h' hdash, hstop]
  rfl

theorem closesAt_iff {line : Text} {i stop : Nat} :
    ClosesAt line i stop ↔
      ∃ closing, closing? (line.drop i) = some closing ∧ stop = i + closing.length := by
  constructor
  · rintro ⟨blanks, blanks', h, h', ⟨back, hback⟩, hstop⟩
    rw [← hback]
    exact ⟨_, closing?_written h h' back, hstop⟩
  · rintro ⟨closing, hclosing, rfl⟩
    obtain ⟨blanks, blanks', back, h, h', rfl, hback⟩ := closing?_eq_some hclosing
    exact ⟨blanks, blanks', h, h', ⟨back, hback.symm⟩, rfl⟩

/-- What an include holds starts behind its opening part and the white space that follows. -/
theorem drop_of_opening? {line opening u : Text} {i : Nat}
    (h : opening? (line.drop i) = some (opening, u)) :
    line.drop (i + (opening ++ u.takeWhile Text.isBlank).length) = u.trimStart := by
  have hsplit : line.drop i = opening ++ u.takeWhile Text.isBlank ++ u.trimStart := by
    rw [(opening?_eq_some h).1, List.append_assoc, Text.takeWhile_append_trimStart]
  rw [← List.drop_drop, hsplit, List.drop_left]

theorem opensAt_iff {line gap : Text} {i body : Nat} :
    OpensAt line i gap body ↔
      ∃ opening u, opening? (line.drop i) = some (opening, u) ∧ gap = u.takeWhile Text.isBlank ∧
        body = i + (opening ++ gap).length := by
  constructor
  · rintro ⟨blanks, hblanks, hgap, ⟨rest, hrest⟩, hbody, hnext⟩
    have hsplit : line.drop i = commentStart ++ blanks ++ braces ++ (gap ++ rest) := by
      rw [← hrest, List.append_assoc (_ ++ braces)]
    refine ⟨commentStart ++ blanks ++ braces, gap ++ rest, ?_, ?_, hbody⟩
    · rw [hsplit, opening?_written hblanks]
    · have hdrop : line.drop body = rest := by
        rw [hbody, ← List.drop_drop, ← hrest, List.drop_left]
      rcases rest with _ | ⟨c, rest⟩
      · rw [List.append_nil, List.takeWhile_eq_self_iff.2 hgap]
      · have hc : Text.isBlank c = false := by
          refine hnext c ?_
          rw [hdrop]
          rfl
        rw [Text.takeWhile_append_of_blank hgap hc]
  · rintro ⟨opening, u, hopening, rfl, rfl⟩
    have hdrop := drop_of_opening? hopening
    obtain ⟨hsplit, blanks, hblanks, rfl⟩ := opening?_eq_some hopening
    refine ⟨blanks, hblanks, Text.blank_takeWhile u, ⟨u.trimStart, ?_⟩, rfl, fun c hc => ?_⟩
    · rw [hsplit, List.append_assoc (_ ++ braces), Text.takeWhile_append_trimStart]
    · rw [hdrop] at hc
      exact Text.isBlank_of_head?_trimStart hc

theorem length_le_of_path? {t path closing : Text} (h : path? t = some (path, closing)) {n : Nat}
    (hn : 0 < n) (hcloses : (closing? (t.drop n)).isSome) : path.length ≤ n := by
  fun_induction path? t generalizing path n with
  | case1 => cases h
  | case2 => cases h
  | case3 c t hc closing' hclosing =>
    obtain ⟨rfl, rfl⟩ : [c] = path ∧ closing' = closing := by simpa using h
    exact hn
  | case4 c t hc hclosing ih =>
    obtain ⟨⟨path', closing'⟩, hpath, heq⟩ := Option.map_eq_some_iff.1 h
    obtain ⟨rfl, rfl⟩ : c :: path' = path ∧ closing' = closing := by simpa using heq
    obtain ⟨m, rfl⟩ := Nat.exists_eq_add_one_of_ne_zero (Nat.ne_of_gt hn)
    rw [List.drop_succ_cons] at hcloses
    have hm : 0 < m := by
      refine Nat.pos_of_ne_zero ?_
      rintro rfl
      simp [hclosing] at hcloses
    exact Nat.succ_le_succ (ih hpath hm hcloses)

/-- **There is no path where nothing is closed later.** -/
theorem path?_eq_none_iff {t : Text} (hfeed : '\n' ∉ t) :
    path? t = none ↔ ∀ n, 0 < n → closing? (t.drop n) = none := by
  constructor
  · intro hnone n hn
    rcases hclosing : closing? (t.drop n) with _ | closing
    · rfl
    have hne : t.take n ≠ [] := by
      intro hnil
      rw [List.take_eq_nil_iff] at hnil
      obtain rfl := hnil.resolve_left (Nat.ne_of_gt hn)
      simp [closing?, Text.trimStart, Text.skip?, closingBraces] at hclosing
    have hfeed' : '\n' ∉ t.take n := fun hmem => hfeed (List.mem_of_mem_take hmem)
    have hsome := isSome_path? hne hfeed' hclosing
    rw [List.take_append_drop, hnone] at hsome
    cases hsome
  · intro hnone
    rcases hpath : path? t with _ | ⟨path, closing⟩
    · rfl
    obtain ⟨hne, rest, rfl, hclosing⟩ := path?_eq_some hpath
    have hclosed := hnone path.length (List.length_pos_iff.2 hne)
    rw [List.drop_left, hclosing] at hclosed
    cases hclosed

theorem blankPath?_concat {c : Char} (hc : c ≠ '\n') (before : Text) :
    blankPath? (before ++ [c]) = some (before, [c], []) := by
  simp [blankPath?, hc]

theorem blankPath?_eq_some_iff {blanks before path behind : Text} (hfeed : '\n' ∉ blanks) :
    blankPath? blanks = some (before, path, behind) ↔
      ∃ c, blanks = before ++ [c] ∧ path = [c] ∧ behind = [] := by
  constructor
  · intro h
    rcases blanks.eq_nil_or_concat' with rfl | ⟨before', c, rfl⟩
    · cases h
    · have hc : c ≠ '\n' := fun hc => hfeed (by simp [hc])
      rw [blankPath?_concat hc] at h
      obtain ⟨rfl, rfl, rfl⟩ : before' = before ∧ [c] = path ∧ [] = behind := by simpa using h
      exact ⟨c, rfl, rfl, rfl⟩
  · rintro ⟨c, rfl, rfl, rfl⟩
    exact blankPath?_concat (fun hc => hfeed (by simp [hc])) before

/-! ### Where includes lie -/

section Line

variable {line : Text}

/-- There is no path behind the white space if nothing is closed behind it. -/
theorem path?_drop_eq_none_iff (hfeed : '\n' ∉ line) {body : Nat} :
    path? (line.drop body) = none ↔ ∀ e f, body < e → ¬ ClosesAt line e f := by
  rw [path?_eq_none_iff fun hmem => hfeed (List.mem_of_mem_drop hmem)]
  constructor
  · intro hnone e f he hcloses
    obtain ⟨closing, hclosing, -⟩ := closesAt_iff.1 hcloses
    have hn := hnone (e - body) (by omega)
    rw [List.drop_drop, Nat.add_sub_cancel' he.le, hclosing] at hn
    cases hn
  · intro hnone n hn
    rcases hclosing : closing? ((line.drop body).drop n) with _ | closing
    · rfl
    · rw [List.drop_drop] at hclosing
      exact absurd (closesAt_iff.2 ⟨closing, hclosing, rfl⟩) (hnone (body + n) _ (by omega))

/-- A path behind the white space reaches to the first closing part. -/
theorem closing?_of_path?_drop {body : Nat} {path closing : Text}
    (h : path? (line.drop body) = some (path, closing)) :
    closing? (line.drop (body + path.length)) = some closing ∧
      ∀ e f, body < e → ClosesAt line e f → body + path.length ≤ e := by
  obtain ⟨-, rest, hrest, hclosing⟩ := path?_eq_some h
  constructor
  · rw [← List.drop_drop, hrest, List.drop_left, hclosing]
  · intro e f he hcloses
    obtain ⟨closing', hclosing', -⟩ := closesAt_iff.1 hcloses
    have hle : path.length ≤ e - body := by
      refine length_le_of_path? h (by omega) ?_
      rw [List.drop_drop, Nat.add_sub_cancel' he.le, hclosing']
      rfl
    omega

/-- What reaches to the first closing part is the path. -/
theorem path?_drop_of_closing? (hfeed : '\n' ∉ line) {body stop : Nat} {closing : Text}
    (hlt : body < stop) (hclosing : closing? (line.drop stop) = some closing)
    (hfirst : ∀ e f, body < e → ClosesAt line e f → stop ≤ e) :
    ∃ path, path? (line.drop body) = some (path, closing) ∧ stop = body + path.length := by
  have hcloses : ClosesAt line stop _ := closesAt_iff.2 ⟨closing, hclosing, rfl⟩
  rcases hpath : path? (line.drop body) with _ | ⟨path, closing'⟩
  · exact absurd hcloses ((path?_drop_eq_none_iff hfeed).1 hpath stop _ hlt)
  · obtain ⟨hclosing', hfirst'⟩ := closing?_of_path?_drop hpath
    have hpos := List.length_pos_iff.2 (path?_eq_some hpath).1
    have hcloses' : ClosesAt line (body + path.length) _ :=
      closesAt_iff.2 ⟨closing', hclosing', rfl⟩
    -- each of the two closing parts is the first one
    have hstop : stop = body + path.length :=
      Nat.le_antisymm (hfirst _ _ (by omega) hcloses') (hfirst' _ _ hlt hcloses)
    rw [← hstop, hclosing] at hclosing'
    exact ⟨path, by rw [Option.some.inj hclosing'], hstop⟩

/-- The white space behind the braces is on the line. -/
theorem feed_notMem_gap (hfeed : '\n' ∉ line) {i : Nat} {opening u : Text}
    (h : opening? (line.drop i) = some (opening, u)) : '\n' ∉ u.takeWhile Text.isBlank := by
  intro hmem
  refine hfeed (List.mem_of_mem_drop (i := i) ?_)
  rw [(opening?_eq_some h).1]
  exact List.mem_append_right _ ((List.takeWhile_prefix _).subset hmem)

theorem isMatch_of_finds (hfeed : '\n' ∉ line) {p : Place}
    (h : Recogniser.Finds recognise line p) : IsMatch line p := by
  obtain ⟨e, he, hp⟩ := h
  obtain ⟨opening, u, ho, hread⟩ := recognise_cases he
  have hopens : OpensAt line p.opened _ _ := opensAt_iff.2 ⟨opening, u, ho, rfl, rfl⟩
  have hdrop := drop_of_opening? ho
  generalize hbody : p.opened + (opening ++ u.takeWhile Text.isBlank).length = body at hopens hdrop
  rw [← hdrop] at hread
  rw [List.length_append] at hbody
  rw [hp]
  rcases hread with ⟨path, closing, hpath, rfl⟩ |
    ⟨before, path, behind, closing, hnone, hc, hb, rfl⟩
  · obtain ⟨hclosing, hfirst⟩ := closing?_of_path?_drop hpath
    have hpos := List.length_pos_iff.2 (path?_eq_some hpath).1
    have hplace : Enclosed.placeAt ⟨opening ++ u.takeWhile Text.isBlank, path, closing⟩ p.opened =
        ⟨p.opened, body, body + path.length, body + path.length + closing.length⟩ := by
      simp [Enclosed.placeAt, Enclosed.text, ← hbody, Nat.add_assoc]
    rw [hplace]
    exact .path hopens (by omega) (closesAt_iff.2 ⟨closing, hclosing, rfl⟩) hfirst
  · obtain ⟨c, hgap, rfl, rfl⟩ := (blankPath?_eq_some_iff (feed_notMem_gap hfeed ho)).1 hb
    have hlength : (u.takeWhile Text.isBlank).length = before.length + 1 := by
      rw [hgap, List.length_append, List.length_singleton]
    have hplace : Enclosed.placeAt ⟨opening ++ before, [c], [] ++ closing⟩ p.opened =
        ⟨p.opened, body - 1, body, body + closing.length⟩ := by
      simp [Enclosed.placeAt, Enclosed.text, ← hbody, hlength, Nat.add_assoc]
      omega
    rw [hplace]
    exact .blank hopens (by simp [hgap]) ((path?_drop_eq_none_iff hfeed).1 hnone)
      (closesAt_iff.2 ⟨closing, hc, rfl⟩)

theorem finds_of_isMatch (hfeed : '\n' ∉ line) {p : Place} (h : IsMatch line p) :
    Recogniser.Finds recognise line p := by
  cases h with
  | @path i body stop closed gap hopens hlt hcloses hfirst =>
    obtain ⟨opening, u, ho, rfl, hbody⟩ := opensAt_iff.1 hopens
    obtain ⟨closing, hclosing, rfl⟩ := closesAt_iff.1 hcloses
    obtain ⟨path, hpath, rfl⟩ := path?_drop_of_closing? hfeed hlt hclosing hfirst
    rw [hbody, drop_of_opening? ho] at hpath
    refine ⟨⟨opening ++ u.takeWhile Text.isBlank, path, closing⟩, ?_, ?_⟩
    · simp [recognise, ho, hpath]
    · simp [Enclosed.placeAt, Enclosed.text, hbody, Nat.add_assoc]
  | @blank i body closed gap hopens hgap hnone hcloses =>
    obtain ⟨opening, u, ho, rfl, hbody⟩ := opensAt_iff.1 hopens
    obtain ⟨closing, hclosing, rfl⟩ := closesAt_iff.1 hcloses
    rw [← path?_drop_eq_none_iff hfeed] at hnone
    rw [hbody, drop_of_opening? ho] at hnone hclosing
    obtain ⟨before, c, hblanks⟩ := (u.takeWhile Text.isBlank).eq_nil_or_concat'.resolve_left hgap
    have hread : blankPath? (u.takeWhile Text.isBlank) = some (before, [c], []) :=
      (blankPath?_eq_some_iff (feed_notMem_gap hfeed ho)).2 ⟨c, hblanks, rfl, rfl⟩
    refine ⟨⟨opening ++ before, [c], closing⟩, ?_, ?_⟩
    · simp [recognise, ho, hnone, hclosing, hread]
    · simp [Enclosed.placeAt, Enclosed.text, hbody, hblanks, Nat.add_assoc]
      omega

/-- **What is recognised at a place is an include**: to read a text and to look at offsets of its
line is the same. -/
theorem finds_iff_isMatch (hfeed : '\n' ∉ line) (p : Place) :
    Recogniser.Finds recognise line p ↔ IsMatch line p :=
  ⟨isMatch_of_finds hfeed, finds_of_isMatch hfeed⟩

end Line

/-! ### The paths of includes -/

theorem isSome_closing?_cons {c : Char} (hc : Text.isBlank c = true) {t : Text}
    (h : (closing? t).isSome) : (closing? (c :: t)).isSome := by
  obtain ⟨closing, hclosing⟩ := Option.isSome_iff_exists.1 h
  obtain ⟨blanks, blanks', back, hblanks, h', rfl, rfl⟩ := closing?_eq_some hclosing
  have hblank : Text.Blank (c :: blanks) := by
    intro d hd
    rcases List.mem_cons.1 hd with rfl | hd
    · exact hc
    · exact hblanks d hd
  have hwritten := closing?_written hblank h' back
  simp only [List.cons_append] at hwritten ⊢
  rw [hwritten]
  rfl

/-- **A path has no white space at its ends**: at its start it would belong to the opening part,
and at its end to the closing part. -/
theorem ends_of_path? {t path closing : Text} (h : path? t.trimStart = some (path, closing)) :
    path.head?.any Text.isBlank = false ∧ path.getLast?.any Text.isBlank = false := by
  obtain ⟨hne, rest, hsplit, hclosing⟩ := path?_eq_some h
  have hhead : ∀ c, path.head? = some c → Text.isBlank c = false := by
    intro c hc
    refine Text.isBlank_of_head?_trimStart (t := t) ?_
    rw [hsplit, List.head?_append_of_ne_nil _ hne, hc]
  constructor
  · cases hc : path.head? with
    | none => rfl
    | some c => exact hhead c hc
  · obtain ⟨front, c, rfl⟩ := path.eq_nil_or_concat'.resolve_left hne
    rw [List.getLast?_concat, Option.any_some]
    by_contra hc
    rw [Bool.not_eq_false] at hc
    rcases eq_or_ne front [] with rfl | hfront
    · rw [hhead c rfl] at hc
      cases hc
    · -- the closing part could start with the last character
      have hsome : (closing? (t.trimStart.drop front.length)).isSome := by
        rw [hsplit, List.append_assoc, List.drop_left, List.singleton_append]
        refine isSome_closing?_cons hc ?_
        rw [hclosing]
        rfl
      have hle := length_le_of_path? h (List.length_pos_iff.2 hfront) hsome
      rw [List.length_append, List.length_singleton] at hle
      omega

/-- **What the path of an include looks like.** -/
theorem content_of_recognise {t : Text} {e : Enclosed} (hfeed : '\n' ∉ t)
    (h : recognise t = some e) :
    e.content ≠ [] ∧ (e.content.head?.any Text.isBlank = false ∧
        e.content.getLast?.any Text.isBlank = false ∨
      ∃ c, Text.isBlank c = true ∧ e.content = [c]) := by
  refine ⟨(recognise_eq_some h).2.1, ?_⟩
  obtain ⟨opening, u, ho, hread⟩ := recognise_cases h
  rcases hread with ⟨path, closing, hpath, rfl⟩ | ⟨before, path, behind, closing, -, -, hb, rfl⟩
  · exact Or.inl (ends_of_path? hpath)
  · obtain ⟨c, hgap, rfl, -⟩ := (blankPath?_eq_some_iff (feed_notMem_gap (i := 0) hfeed ho)).1 hb
    refine Or.inr ⟨c, Text.blank_takeWhile u c ?_, rfl⟩
    rw [hgap]
    simp

/-- **Includes are read as their grammar says.** On a line, what is under a column is the path of
one of the includes that a scan finds from the start of the line on, namely of the one whose columns
cover it, and there is nothing else. Such a path is not empty, and it has no white space at its ends
unless it is a single white space. -/
theorem at?_decides_grammar {line : Text} (hfeed : '\n' ∉ line) (row column : Nat) :
    (∀ content range,
      (∃ k, at? line column = some k ∧ k.content = content ∧ k.span.onLine row = range) ↔
        ∃ p, Place.Scanned (IsMatch line) 0 p ∧ (p.span line).Covers column ∧
          content = (line.take p.stop).drop p.start ∧ range = (p.span line).onLine row) ∧
    ∀ k, at? line column = some k → k.content ≠ [] ∧
      (k.content.head?.any Text.isBlank = false ∧ k.content.getLast?.any Text.isBlank = false ∨
        ∃ c, Text.isBlank c = true ∧ k.content = [c]) := by
  have hscanned : ∀ k, at? line column = some k ↔ ∃ p, Place.Scanned (IsMatch line) 0 p ∧
      (p.span line).Covers column ∧ k = p.token line :=
    fun _ => Token.find?_eq_some_iff_scanned recognise_sound recognise_delimited
      (finds_iff_isMatch hfeed)
  have hspan : ∀ p, Place.Scanned (IsMatch line) 0 p → (p.token line).span = p.span line :=
    fun p hp => ((finds_iff_isMatch hfeed p).2 hp.isFound).span_token
  refine ⟨fun content range => ⟨?_, ?_⟩, fun k hk => ?_⟩
  · rintro ⟨k, hk, rfl, rfl⟩
    obtain ⟨p, hp, hcovers, rfl⟩ := (hscanned k).1 hk
    exact ⟨p, hp, hcovers, rfl, by rw [hspan p hp]⟩
  · rintro ⟨p, hp, hcovers, rfl, rfl⟩
    exact ⟨p.token line, (hscanned _).2 ⟨p, hp, hcovers, rfl⟩, rfl, by rw [hspan p hp]⟩
  · obtain ⟨front, e, back, rfl, hsome, rfl, -⟩ := Token.find?_eq_some recognise_sound hk
    rw [List.append_assoc] at hfeed
    exact content_of_recognise (fun hmem => hfeed (List.mem_append_right front hmem)) hsome

/-- A line with a comment that is not closed, a path that ends in a brace, and braces around an
ideographic space. The path reaches from the first braces to the brace, and the space is a path
too. -/
theorem at?_decides_grammar_blank :
    let line : Text :=
      "<!-- \x7b\x7b <!-- \x7b\x7b a\x7d\x7d\x7d --> <!--\x7b\x7b\u3000\x7d\x7d-->".toList
    '\n' ∉ line ∧
      (∃ p, Place.Scanned (IsMatch line) 0 p ∧ (p.span line).Covers 17 ∧
        "<!-- \x7b\x7b a\x7d".toList = (line.take p.stop).drop p.start ∧
        ⟨⟨2, 8⟩, ⟨2, 18⟩⟩ = (p.span line).onLine 2) ∧
      ∃ p, Place.Scanned (IsMatch line) 0 p ∧ (p.span line).Covers 31 ∧
        "\u3000".toList = (line.take p.stop).drop p.start ∧
        ⟨⟨2, 31⟩, ⟨2, 32⟩⟩ = (p.span line).onLine 2 := by
  intro line
  have hfeed : '\n' ∉ line := by decide
  have hpath : at? line 17 = some ⟨line.take 8, "<!-- \x7b\x7b a\x7d".toList, line.drop 18⟩ := by
    decide +kernel
  have hspace : at? line 31 = some ⟨line.take 31, "\u3000".toList, line.drop 32⟩ := by
    decide +kernel
  refine ⟨hfeed, ?_, ?_⟩
  · exact ((at?_decides_grammar hfeed 2 17).1 _ _).1 ⟨_, hpath, rfl, by decide +kernel⟩
  · exact ((at?_decides_grammar hfeed 2 31).1 _ _).1 ⟨_, hspace, rfl, by decide +kernel⟩

end Include

/-! ### Where script strings lie -/

namespace Script

/-- **The places of a line at which a script string lies**: between a quote and the next quote of
its kind, with no line feed in between, and with one of the endings and something before it. -/
inductive IsMatch (t : Text) : Place → Prop
  /-- The string from the quote at `i` to the quote at `j`. -/
  | string {quote : Char} {i j : Nat} (hquote : IsQuote quote) (hopens : t[i]? = some quote)
      (hlt : i < j) (hcloses : t[j]? = some quote)
      (hnext : ∀ m c, i < m → m < j → t[m]? = some c → c ≠ quote ∧ c ≠ '\n')
      (hname : ∃ stem ending, ending ∈ endings ∧ stem ≠ [] ∧
        (t.take j).drop (i + 1) = stem ++ ending) :
      IsMatch t ⟨i, i + 1, j, j + 1⟩

theorem recognise_delimited : Recogniser.Delimited recognise := by
  intro t e h
  obtain ⟨quote, -, -, he, -⟩ := recognise_eq_some h
  rw [he]
  simp

/-- A string holds neither its quote nor a line feed. -/
theorem notMem_of_recognise {quote : Char} {t : Text} {e : Enclosed}
    (h : recognise (quote :: t) = some e) : quote ∉ e.content ∧ '\n' ∉ e.content := by
  have hcontent : e.content = t.takeWhile fun c => c != quote && c != '\n' := by
    rw [recognise] at h
    split at h
    · simp only at h
      split at h
      · split at h
        · rw [← Option.some.inj h]
        · cases h
      · cases h
    · cases h
  have hall : ∀ c ∈ e.content, (c != quote && c != '\n') = true := by
    intro c hc
    rw [hcontent] at hc
    simpa using List.mem_takeWhile_imp hc
  exact ⟨fun hmem => by simpa using hall _ hmem, fun hmem => by simpa using hall _ hmem⟩

/-- A quoted name and what stands around it. -/
structure Around (line front : Text) (quote : Char) (name back : Text) : Prop where
  /-- It is one of the two quotes. -/
  isQuote : IsQuote quote
  /-- The name ends at the next quote of its kind. -/
  quote_notMem : quote ∉ name
  /-- It is on one line. -/
  feed_notMem : '\n' ∉ name
  /-- It is the name of a script. -/
  isName : isName name = true
  /-- It is what the line reads. -/
  line_eq : line = front ++ quote :: (name ++ quote :: back)

theorem finds_iff_around {line : Text} {p : Place} :
    Recogniser.Finds recognise line p ↔ ∃ front quote name back,
      Around line front quote name back ∧
        p = Enclosed.placeAt ⟨[quote], name, [quote]⟩ front.length := by
  constructor
  · intro h
    obtain ⟨front, e, back, rfl, he, rfl⟩ := h.exists_append recognise_sound recognise_delimited
    obtain ⟨quote, -, hquote, heq, hname, -⟩ := recognise_eq_some he
    have htext : e.text ++ back = quote :: (e.content ++ quote :: back) := by
      rw [heq]
      simp [Enclosed.text]
    rw [htext] at he
    obtain ⟨hquote', hfeed⟩ := notMem_of_recognise he
    exact ⟨front, quote, e.content, back, ⟨hquote, hquote', hfeed, hname, by rw [htext]⟩,
      congrArg (Enclosed.placeAt · front.length) heq⟩
  · rintro ⟨front, quote, name, back, ⟨hquote, hquote', hfeed, hname, rfl⟩, rfl⟩
    have hfound := recognise_quoted hquote hquote' hfeed hname back
    have htext : quote :: (name ++ quote :: back) =
        Enclosed.text ⟨[quote], name, [quote]⟩ ++ back := by
      simp [Enclosed.text]
    rw [htext] at hfound ⊢
    exact Recogniser.finds_placeAt hfound front

/-- Between two offsets at which a text reads a quote, and behind them. -/
theorem eq_append_of_quotes {t : Text} {quote : Char} {i j : Nat} (hlt : i < j)
    (hopens : t[i]? = some quote) (hcloses : t[j]? = some quote) :
    t = t.take i ++ quote :: ((t.take j).drop (i + 1) ++ quote :: t.drop (j + 1)) := by
  obtain ⟨hi, rfl⟩ := List.getElem?_eq_some_iff.1 hopens
  obtain ⟨hj, hsame⟩ := List.getElem?_eq_some_iff.1 hcloses
  have hle : i + 1 ≤ (t.take j).length := by
    rw [List.length_take_of_le hj.le]
    exact hlt
  calc t = t.take i ++ t.drop i := (List.take_append_drop i t).symm
    _ = t.take i ++ t[i] :: t.drop (i + 1) := by rw [List.drop_eq_getElem_cons hi]
    _ = t.take i ++ t[i] :: ((t.take j).drop (i + 1) ++ t.drop j) := by
      rw [← List.drop_append_of_le_length hle, List.take_append_drop]
    _ = t.take i ++ t[i] :: ((t.take j).drop (i + 1) ++ t[i] :: t.drop (j + 1)) := by
      rw [List.drop_eq_getElem_cons hj, hsame]

theorem isMatch_iff_around {line : Text} {p : Place} :
    IsMatch line p ↔ ∃ front quote name back, Around line front quote name back ∧
      p = Enclosed.placeAt ⟨[quote], name, [quote]⟩ front.length := by
  constructor
  · rintro (@⟨quote, i, j, hquote, hopens, hlt, hcloses, hnext, hname⟩)
    have hj : j < line.length := (List.getElem?_eq_some_iff.1 hcloses).1
    have hmem : ∀ c ∈ (line.take j).drop (i + 1), c ≠ quote ∧ c ≠ '\n' := by
      intro c hc
      obtain ⟨n, hn⟩ := List.mem_iff_getElem?.1 hc
      rw [List.getElem?_drop, List.getElem?_take] at hn
      split at hn
      · exact hnext (i + 1 + n) c (by omega) (by assumption) hn
      · cases hn
    refine ⟨line.take i, quote, (line.take j).drop (i + 1), line.drop (j + 1),
      ⟨hquote, fun h => (hmem _ h).1 rfl, fun h => (hmem _ h).2 rfl, ?_, ?_⟩, ?_⟩
    · obtain ⟨stem, ending, hending, hstem, heq⟩ := hname
      exact isName_iff.2 ⟨stem, ending, hending, hstem, heq⟩
    · exact eq_append_of_quotes hlt hopens hcloses
    · simp only [Enclosed.placeAt, Enclosed.text, List.length_append, List.length_singleton,
        List.length_drop, List.length_take, Place.mk.injEq]
      omega
  · rintro ⟨front, quote, name, back, ⟨hquote, hquote', hfeed, hname, rfl⟩, rfl⟩
    have hplace : Enclosed.placeAt ⟨[quote], name, [quote]⟩ front.length =
        ⟨front.length, front.length + 1, front.length + 1 + name.length,
          front.length + 1 + name.length + 1⟩ := by
      simp [Enclosed.placeAt, Enclosed.text]
      omega
    have hsplit : front ++ quote :: (name ++ quote :: back) =
        (front ++ [quote]) ++ (name ++ quote :: back) := by simp
    have hlength : front.length + 1 = (front ++ [quote]).length := by simp
    have hread : ∀ n, (front ++ quote :: (name ++ quote :: back))[front.length + 1 + n]? =
        (name ++ quote :: back)[n]? := by
      intro n
      rw [hsplit, hlength, List.getElem?_append_right (Nat.le_add_right _ _),
        Nat.add_sub_cancel_left]
    rw [hplace]
    refine .string hquote (by simp) (by omega) (by simp [hread]) ?_ ?_
    · intro m c hm hm' hc
      obtain ⟨n, rfl⟩ := Nat.exists_eq_add_of_le (Nat.succ_le_of_lt hm)
      rw [hread, List.getElem?_append_left (by omega)] at hc
      have hmem := List.mem_of_getElem? hc
      exact ⟨fun h => hquote' (h ▸ hmem), fun h => hfeed (h ▸ hmem)⟩
    · have htake : ((front ++ quote :: (name ++ quote :: back)).take
          (front.length + 1 + name.length)).drop (front.length + 1) = name := by
        rw [hsplit, hlength, List.take_length_add_append, List.take_left, List.drop_left]
      rw [htake]
      exact isName_iff.1 hname

/-- **What is recognised at a place is a script string.** -/
theorem finds_iff_isMatch (line : Text) (p : Place) :
    Recogniser.Finds recognise line p ↔ IsMatch line p :=
  finds_iff_around.trans isMatch_iff_around.symm

/-- The quote of a string is found where its match begins. -/
theorem quoteByte_token {line : Text} {p : Place} (h : IsMatch line p) :
    quoteByte (p.token line) = utf8Length (line.take p.opened) := by
  obtain ⟨front, quote, name, back, ⟨hquote, -, -, -, rfl⟩, rfl⟩ := isMatch_iff_around.1 h
  have htext : quote :: (name ++ quote :: back) =
      Enclosed.text ⟨[quote], name, [quote]⟩ ++ back := by
    simp [Enclosed.text]
  rw [htext, Enclosed.token_placeAt, quoteByte_inside hquote, Enclosed.placeAt, List.take_left]

/-- **Script strings are read as their grammar says.** On a line, what is under a column is one of
the strings that a scan finds from the start of the line on, namely the one whose columns cover it,
with the byte offset of the quote that opens it, and there is nothing else. That offset cuts the
line right in front of the quote, so that the walk back from the string can start, and starts with
what stands before the quote. -/
theorem at?_decides_strings (line : Text) (row column : Nat) :
    (∀ content range quoteStart,
      (∃ k, at? line column = some k ∧ k.content = content ∧ k.span.onLine row = range ∧
          quoteByte k = quoteStart) ↔
        ∃ p, Place.Scanned (IsMatch line) 0 p ∧ (p.span line).Covers column ∧
          content = (line.take p.stop).drop p.start ∧ range = (p.span line).onLine row ∧
          quoteStart = utf8Length (line.take p.opened)) ∧
    ∀ k, at? line column = some k → ∃ front quote back, IsQuote quote ∧
      k.before = front ++ [quote] ∧ line.splitBytes? (quoteByte k) = some (front, quote :: back) ∧
      ∀ (lines : Nat → Option Text) (index limit : Nat) (declaration : Option Range),
        lines index = some line →
          Construction.verify lines index (quoteByte k) limit declaration =
            Construction.walk lines index
              (index - Construction.lowest index limit declaration) front := by
  have hscanned : ∀ k, at? line column = some k ↔ ∃ p, Place.Scanned (IsMatch line) 0 p ∧
      (p.span line).Covers column ∧ k = p.token line :=
    fun _ => Token.find?_eq_some_iff_scanned recognise_sound recognise_delimited
      (finds_iff_isMatch line)
  have hspan : ∀ p, Place.Scanned (IsMatch line) 0 p → (p.token line).span = p.span line :=
    fun p hp => ((finds_iff_isMatch line p).2 hp.isFound).span_token
  refine ⟨fun content range quoteStart => ⟨?_, ?_⟩, fun k hk => ?_⟩
  · rintro ⟨k, hk, rfl, rfl, rfl⟩
    obtain ⟨p, hp, hcovers, rfl⟩ := (hscanned k).1 hk
    exact ⟨p, hp, hcovers, rfl, by rw [hspan p hp], quoteByte_token hp.isFound⟩
  · rintro ⟨p, hp, hcovers, rfl, rfl, rfl⟩
    exact ⟨p.token line, (hscanned _).2 ⟨p, hp, hcovers, rfl⟩, rfl, by rw [hspan p hp],
      quoteByte_token hp.isFound⟩
  · obtain ⟨front, e, back, rfl, hsome, rfl, -⟩ := Token.find?_eq_some recognise_sound hk
    obtain ⟨quote, -, hquote, heq, -⟩ := recognise_eq_some hsome
    have hbyte : quoteByte (e.inside front back) = utf8Length front := by
      rw [heq]
      exact quoteByte_inside hquote _ _ _
    have hcut : (front ++ e.text ++ back).splitBytes? (utf8Length front) =
        some (front, quote :: (e.content ++ quote :: back)) := by
      rw [List.append_assoc, Text.splitBytes?_append, heq]
      simp [Enclosed.text]
    refine ⟨front, quote, _, hquote, ?_, by rw [hbyte, hcut], ?_⟩
    · rw [heq]
      rfl
    · intro lines index limit declaration hline
      rw [Construction.verify, hline, hbyte, Option.bind_some, hcut]

/-- A line on which two quotes open nothing, one of them because the next of its kind is inside a
string of the other kind. -/
theorem at?_decides_strings_mixed :
    let line : Text := "é='a'+\"😀it's.ts\",'./b.mjs'".toList
    let lines : Nat → Option Text := fun n => if n = 3 then some line else none
    lines 3 = some line ∧
      (∃ p, Place.Scanned (IsMatch line) 0 p ∧ (p.span line).Covers 16 ∧
        "😀it's.ts".toList = (line.take p.stop).drop p.start ∧
        ⟨⟨3, 7⟩, ⟨3, 16⟩⟩ = (p.span line).onLine 3 ∧ 7 = utf8Length (line.take p.opened)) ∧
      Construction.verify lines 3 7 32 none = Construction.walk lines 3 3 "é='a'+".toList := by
  intro line lines
  have hk : at? line 16 = some ⟨line.take 7, "😀it's.ts".toList, line.drop 15⟩ := by
    decide +kernel
  have hbyte : quoteByte ⟨line.take 7, "😀it's.ts".toList, line.drop 15⟩ = 7 := by decide +kernel
  obtain ⟨hgrammar, hcut⟩ := at?_decides_strings line 3 16
  refine ⟨rfl, (hgrammar _ _ _).1 ⟨_, hk, rfl, by decide +kernel, hbyte⟩, ?_⟩
  obtain ⟨front, quote, -, -, hbefore, -, hverify⟩ := hcut _ hk
  obtain ⟨rfl, -⟩ : "é='a'+".toList = front ∧ ['"'] = [quote] :=
    List.append_inj' (show "é='a'+".toList ++ ['"'] = front ++ [quote] from hbefore) rfl
  rw [hbyte] at hverify
  exact hverify lines 3 32 none rfl

end Script

end Signpost
