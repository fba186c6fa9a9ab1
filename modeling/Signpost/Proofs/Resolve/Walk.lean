import Signpost.Proofs.Resolve.Window
import Signpost.Proofs.Token.Construction

/-!
# The walk back, line by line

`Signpost.Construction.verify_eq_true_iff` says what the walk decides. This file says how it gets
there. At each line, the walk holds a text (`Signpost.Construction.Reaches`), and that text is
always the window from this line on (`Signpost.Construction.Reaches.eq_window`): nothing is
dropped and nothing is read twice.

So what is true of windows is true of the walk. Since the text above a window ends with a line
feed, which is no part of a word, a keyword of a shorter window is a keyword of every longer one
(`Signpost.Construction.lastKeyword?_window`). And if the whole window ends in a construction, a
window without a keyword is the tail of one and has a line above it
(`Signpost.Construction.isTail_and_lt_of_ends`). The walk may therefore decide at the first keyword
that it meets, and give up at the first text that is no tail.
-/

namespace Signpost.Construction

variable {line : Nat → Option Text}

/-! ### Windows in windows -/

theorem above_eq_append {low i index : Nat} (hlow : low ≤ i) (hi : i ≤ index) :
    above line low index = above line low i ++ above line i index := by
  have hcount : index - low = (i - low) + (index - i) := by omega
  have hstart : low + (i - low) = i := by omega
  rw [above, hcount, ← List.range'_append_1, List.flatMap_append, hstart]
  rfl

/-- A longer window has whole lines in front of a shorter one. -/
theorem window_eq_append {low i index : Nat} (hlow : low ≤ i) (hi : i ≤ index) (front : Text) :
    window line low index front = above line low i ++ window line i index front := by
  rw [window, window, above_eq_append hlow hi, List.append_assoc]

theorem window_cons {i index : Nat} {previous : Text} (hi : i < index)
    (hline : line i = some previous) (front : Text) :
    window line i index front = previous ++ '\n' :: window line (i + 1) index front := by
  have hone : above line i (i + 1) = previous ++ ['\n'] := by
    simp [above, hline]
  rw [window_eq_append (Nat.le_succ i) hi, hone]
  simp

/-- **A keyword that is found is the last one**, however many lines are put in front. -/
theorem lastKeyword?_window {low i index : Nat} {front rest : Text} (hlow : low ≤ i)
    (hi : i ≤ index) (h : lastKeyword? none (window line i index front) = some rest) :
    lastKeyword? none (window line low index front) = some rest := by
  rw [window_eq_append hlow hi]
  refine lastKeyword?_append_of_some ?_
  rw [← h]
  refine lastKeyword?_congr ?_ _
  rw [Option.or_none]
  exact any_getLast?_of_closed (closed_above low i)

/-- **A window without a keyword is not given up**, if the whole window ends in a construction:
it is a tail, and there is a line above it that may be looked at. -/
theorem isTail_and_lt_of_ends {low i index : Nat} {front : Text} (hlow : low ≤ i) (hi : i ≤ index)
    (h : lastKeyword? none (window line i index front) = none)
    (hends : Ends (window line low index front)) :
    isTail (window line i index front) = true ∧ low < i := by
  constructor
  · rw [window_eq_append hlow hi] at hends
    exact isTail_of_ends (closed_above low i) h hends
  · refine Nat.lt_of_le_of_ne hlow ?_
    rintro rfl
    obtain ⟨rest, hrest, -⟩ := ends_iff.1 hends
    rw [h] at hrest
    cases hrest

/-! ### The states of the walk -/

/-- **What the walk comes to**: a line, and the text that it holds there. It starts at line
`index` with the text in front of the quote. It goes up one line if the text has no keyword and
is a tail, unless it is on line `low` or the line above is missing. -/
inductive Reaches (line : Nat → Option Text) (low index : Nat) (front : Text) : Nat → Text → Prop
  /-- The line of the quote. -/
  | start : Reaches line low index front index front
  /-- One line up. -/
  | up {i : Nat} {search previous : Text} : Reaches line low index front (i + 1) search →
      lastKeyword? none search = none → isTail search = true → low ≤ i →
      line i = some previous → Reaches line low index front i (previous ++ '\n' :: search)

variable {low index : Nat} {front : Text}

theorem Reaches.bounds {i : Nat} {search : Text} (h : Reaches line low index front i search)
    (hle : low ≤ index) : low ≤ i ∧ i ≤ index := by
  induction h with
  | start => exact ⟨hle, Nat.le_refl index⟩
  | up _ _ _ hlow _ ih => exact ⟨hlow, Nat.le_of_succ_le ih.2⟩

/-- **The walk holds the window from its line on.** -/
theorem Reaches.eq_window {i : Nat} {search : Text} (h : Reaches line low index front i search)
    (hle : low ≤ index) : search = window line i index front := by
  induction h with
  | start => rw [window_self]
  | up hreach _ _ _ hline ih => rw [window_cons (hreach.bounds hle).2 hline, ← ih]

/-- **What the walk comes to decides it.** -/
theorem Reaches.walk_eq {i : Nat} {search : Text} (h : Reaches line low index front i search) :
    walk line index (index - low) front = walk line i (i - low) search := by
  induction h with
  | start => rfl
  | up _ hnone htail hlow hline ih =>
    rw [ih, Nat.succ_sub hlow, walk, hnone]
    simp [htail, hline]

/-! ### The decision -/

theorem lowest_eq (index limit : Nat) (declaration : Option Range) :
    lowest index limit declaration =
      max (((declaration.map fun range => range.start.line).filter (· ≤ index)).getD 0)
        (index - limit) := by
  cases declaration with
  | none => rfl
  | some range =>
    by_cases h : range.start.line ≤ index
    · simp [lowest, Option.filter, h]
    · simp [lowest, Option.filter, h]

/-- Lines above the lowest one do not count. -/
theorem verify_congr_of_lowest {line' : Nat → Option Text} {limit : Nat}
    {declaration : Option Range}
    (h : ∀ n, lowest index limit declaration ≤ n → n ≤ index → line' n = line n) (quote : Nat) :
    verify line' index quote limit declaration = verify line index quote limit declaration := by
  have hle := lowest_le index limit declaration
  rw [verify, verify, h index hle (Nat.le_refl index)]
  split
  · rfl
  · exact walk_congr (fun k hk => h _ (by omega) (by omega)) _

/-- **The walk back decides one grammar, and nothing is lost on the way.** Let `low` be the
start of the enclosing declaration if that is not below the quote, but at most `limit` lines up,
and let all lines from there on exist. Then a quote is verified exactly if the window from line
`low` on ends in a construction.

At each line that the walk comes to, it holds the window from there on, and the rest of the walk
decides. If that window has no keyword but the whole one ends in a construction, the walk goes
on. If it has one, its last keyword is that of the whole window. The walk never comes to a line
above `low`, and what stands on these lines does not count. -/
theorem verify_decides_window {limit : Nat} {declaration : Option Range} {back : Text}
    (hlow : low = max
      (((declaration.map fun range => range.start.line).filter (· ≤ index)).getD 0)
      (index - limit))
    (hline : line index = some (front ++ back))
    (hlines : ∀ n, low ≤ n → n < index → (line n).isSome) :
    (verify line index (utf8Length front) limit declaration = true ↔
      ∃ u blanks name blanks' blanks'', u.getLast?.any Text.isWordChar = false ∧
        Text.Blank blanks ∧ blanks ≠ [] ∧ (name = worker ∨ name = sharedWorker) ∧
        Text.Blank blanks' ∧ Text.Blank blanks'' ∧
        window line low index front =
          u ++ keyword ++ (blanks ++ name ++ blanks' ++ '(' :: blanks'')) ∧
    (∀ i search, Reaches line low index front i search →
      low ≤ i ∧ i ≤ index ∧ search = window line i index front ∧
      verify line index (utf8Length front) limit declaration = walk line i (i - low) search ∧
      (lastKeyword? none search = none → Ends (window line low index front) →
        isTail search = true ∧ low < i) ∧
      ∀ rest, lastKeyword? none search = some rest →
        lastKeyword? none (window line low index front) = some rest) ∧
    ∀ line' : Nat → Option Text, (∀ n, low ≤ n → n ≤ index → line' n = line n) →
      verify line' index (utf8Length front) limit declaration =
        verify line index (utf8Length front) limit declaration := by
  rw [← lowest_eq] at hlow
  subst hlow
  have hle := lowest_le index limit declaration
  refine ⟨?_, fun i search hreach => ?_, fun line' h => verify_congr_of_lowest h _⟩
  · rw [verify_eq_true_iff hline hlines]
    constructor
    · rintro ⟨u, rest, hu, ⟨blanks, name, blanks', blanks'', h, hne, hname, h', h'', rfl⟩, heq⟩
      exact ⟨u, blanks, name, blanks', blanks'', hu, h, hne, hname, h', h'', heq⟩
    · rintro ⟨u, blanks, name, blanks', blanks'', hu, h, hne, hname, h', h'', heq⟩
      exact ⟨u, _, hu, ⟨blanks, name, blanks', blanks'', h, hne, hname, h', h'', rfl⟩, heq⟩
  · obtain ⟨hlow, hi⟩ := hreach.bounds hle
    have hwalk : verify line index (utf8Length front) limit declaration =
        walk line i (i - lowest index limit declaration) search := by
      rw [verify, hline, Option.bind_some, Text.splitBytes?_append]
      exact hreach.walk_eq
    obtain rfl := hreach.eq_window hle
    exact ⟨hlow, hi, rfl, hwalk, isTail_and_lt_of_ends hlow hi, fun rest => lastKeyword?_window hlow hi⟩

/-- A construction over four lines, the second of which ends in a carriage return and the third
of which holds a line feed. A declaration starts with the keyword, so the line above it may as
well be missing. -/
theorem verify_decides_window_scattered :
    let lines : List Text := ["let n".toList, "x=new".toList, "\tSharedWorker\r".toList,
      "\n(".toList, "  './a.ts')".toList]
    let line : Nat → Option Text := fun n => lines[n]?
    let declaration : Range := ⟨⟨1, 0⟩, ⟨5, 0⟩⟩
    (1 = max (((some declaration).map fun range => range.start.line).filter (· ≤ 4) |>.getD 0)
        (4 - 5) ∧
      line 4 = some ("  ".toList ++ "'./a.ts')".toList) ∧
      ∀ n, 1 ≤ n → n < 4 → (line n).isSome) ∧
    verify line 4 2 5 (some declaration) = true ∧
    verify (fun n => if n = 0 then none else line n) 4 2 5 (some declaration) = true := by
  intro lines line declaration
  have hlow : 1 = max (((some declaration).map fun range => range.start.line).filter (· ≤ 4)
      |>.getD 0) (4 - 5) := by decide
  have hline : line 4 = some ("  ".toList ++ "'./a.ts')".toList) := by decide
  have hlines : ∀ n, 1 ≤ n → n < 4 → (line n).isSome := by
    intro n hn hlt
    exact Option.isSome_iff_exists.2 ⟨_, List.getElem?_eq_getElem (by simp [lines]; omega)⟩
  obtain ⟨hdecides, -, hframe⟩ := verify_decides_window hlow hline hlines
  have hverify : verify line 4 2 5 (some declaration) = true := by
    refine hdecides.2 ⟨"x=".toList, "\n\t".toList, sharedWorker, "\r\n\n".toList, "\n  ".toList,
      ?_, ?_, ?_, ?_, ?_, ?_, ?_⟩ <;> decide
  refine ⟨⟨hlow, hline, hlines⟩, hverify, (hframe _ ?_).trans hverify⟩
  intro n hn _
  exact if_neg (by omega)

end Signpost.Construction
