import Mathlib.Data.List.Basic
import Signpost.Proofs.Token.Construction

/-!
# Texts without their carriage returns

The lines of a document come without their terminators, and the walk back puts single line
feeds between them. So what it looks at is not a piece of the document but a piece without
the carriage returns before its line feeds (`Signpost.Text.dropReturns`);
`Signpost.Construction.above_lineAt?` says so.

The grammar of constructions does not mind. Carriage returns are white space, and taking
them away from white space leaves white space, so what ends in a construction still does
(`Signpost.Construction.Ends.dropReturns`).
-/

namespace Signpost

namespace Text

/-- A text without the carriage returns that stand right before a line feed. -/
def dropReturns : Text → Text
  | [] => []
  | '\r' :: '\n' :: t => '\n' :: dropReturns t
  | c :: t => c :: dropReturns t

theorem dropReturns_cons {c : Char} {t : Text} (h : c ≠ '\r' ∨ t.head? ≠ some '\n') :
    dropReturns (c :: t) = c :: dropReturns t := by
  rw [dropReturns]
  rintro t' rfl rfl
  simp at h

/-- **The text can be taken apart anywhere but inside a line terminator.** -/
theorem dropReturns_append {a b : Text} (h : a.getLast? ≠ some '\r' ∨ b.head? ≠ some '\n') :
    dropReturns (a ++ b) = dropReturns a ++ dropReturns b := by
  fun_induction dropReturns a with
  | case1 => rfl
  | case2 t ih =>
    have hlast : t.getLast? ≠ some '\r' ∨ b.head? ≠ some '\n' := by
      refine h.imp_left fun hlast ht => hlast ?_
      simp [List.getLast?_cons, ht]
    rw [List.cons_append, List.cons_append, dropReturns, ih hlast, List.cons_append]
  | case3 c t hne ih =>
    rcases t with _ | ⟨d, t⟩
    · have hcons : c ≠ '\r' ∨ b.head? ≠ some '\n' := h.imp_left fun hlast hc => hlast (by simp [hc])
      rw [List.singleton_append, dropReturns_cons hcons]
      rfl
    · have hlast : (d :: t).getLast? ≠ some '\r' ∨ b.head? ≠ some '\n' := by
        refine h.imp_left fun hlast ht => hlast ?_
        rw [List.getLast?_cons_cons]
        exact ht
      have hcons : c ≠ '\r' ∨ (d :: t ++ b).head? ≠ some '\n' := by
        by_cases hc : c = '\r'
        · refine Or.inr fun hd => hne t hc ?_
          obtain rfl : d = '\n' := by simpa using hd
          rfl
        · exact Or.inl hc
      rw [List.cons_append, dropReturns_cons hcons, ih hlast, List.cons_append]

theorem dropReturns_append_cons (a : Text) {c : Char} (hc : c ≠ '\n') (b : Text) :
    dropReturns (a ++ c :: b) = dropReturns a ++ dropReturns (c :: b) :=
  dropReturns_append (Or.inr (by simpa using hc))

theorem dropReturns_of_notMem {t : Text} (h : '\n' ∉ t) : dropReturns t = t := by
  induction t with
  | nil => rfl
  | cons c t ih =>
    have hhead : t.head? ≠ some '\n' :=
      fun hd => h (List.mem_cons_of_mem c (List.mem_of_head? hd))
    rw [dropReturns_cons (Or.inr hhead), ih fun hmem => h (List.mem_cons_of_mem c hmem)]

theorem dropReturns_closed_append {a : Text} (ha : Closed a) (b : Text) :
    dropReturns (a ++ b) = dropReturns a ++ dropReturns b := by
  refine dropReturns_append (Or.inl ?_)
  rcases ha with rfl | ⟨front, rfl⟩
  · simp
  · simp

theorem mem_of_mem_dropReturns {c : Char} {t : Text} (h : c ∈ dropReturns t) : c ∈ t := by
  fun_induction dropReturns t with
  | case1 => exact h
  | case2 t ih =>
    rcases List.mem_cons.1 h with rfl | h
    · simp
    · simp [ih h]
  | case3 d t hne ih =>
    rcases List.mem_cons.1 h with rfl | h
    · simp
    · simp [ih h]

theorem dropReturns_eq_nil {t : Text} (h : dropReturns t = []) : t = [] := by
  fun_cases dropReturns t with
  | case1 => rfl
  | case2 t => cases h
  | case3 c t hne =>
    rw [dropReturns] at h
    · cases h
    · exact hne

/-- The last character stays. -/
theorem getLast?_dropReturns (t : Text) : (dropReturns t).getLast? = t.getLast? := by
  rcases t.eq_nil_or_concat' with rfl | ⟨front, c, rfl⟩
  · rfl
  · by_cases hsplit : front.getLast? = some '\r' ∧ c = '\n'
    · obtain ⟨hlast, rfl⟩ := hsplit
      obtain ⟨init, rfl⟩ := List.getLast?_eq_some_iff.1 hlast
      have hcut : dropReturns (init ++ ['\r', '\n']) = dropReturns init ++ ['\n'] :=
        dropReturns_append_cons init (by decide) ['\n']
      rw [List.append_assoc, List.singleton_append, hcut]
      simp
    · have hcut : front.getLast? ≠ some '\r' ∨ [c].head? ≠ some '\n' := by
        by_cases hlast : front.getLast? = some '\r'
        · exact Or.inr fun hc => hsplit ⟨hlast, by simpa using hc⟩
        · exact Or.inl hlast
      have hone : dropReturns [c] = [c] := dropReturns_cons (Or.inr (by simp))
      rw [dropReturns_append hcut, hone]
      simp

/-- A whole line loses the carriage return that ends it, and no other. -/
theorem dropReturns_line {line : Text} (hline : '\n' ∉ line) (t : Text) :
    dropReturns (line ++ '\n' :: t) = dropCarriageReturn line ++ '\n' :: dropReturns t := by
  have hbreak : dropReturns ('\n' :: t) = '\n' :: dropReturns t :=
    dropReturns_cons (Or.inl (by decide))
  by_cases hlast : line.getLast? = some '\r'
  -- the text is cut before the carriage return, where it may be cut
  · obtain ⟨init, rfl⟩ := List.getLast?_eq_some_iff.1 hlast
    have hinit : '\n' ∉ init := fun h => hline (by simp [h])
    rw [dropCarriageReturn_snoc, List.append_assoc, List.singleton_append,
      dropReturns_append_cons init (by decide), dropReturns_of_notMem hinit]
    rfl
  · rw [dropCarriageReturn_of_ne hlast, dropReturns_append (Or.inl hlast),
      dropReturns_of_notMem hline, hbreak]

theorem Blank.dropReturns {t : Text} (h : Blank t) : Blank t.dropReturns :=
  fun c hc => h c (mem_of_mem_dropReturns hc)

/-- Whole lines start with a line. -/
theorem exists_line_of_closed {t : Text} (h : Closed t) (hne : t ≠ []) :
    ∃ line rest, t = line ++ '\n' :: rest ∧ '\n' ∉ line ∧ Closed rest := by
  obtain ⟨line, rest, rfl, hline, hrest⟩ := exists_append_breaks t
  rcases hrest with rfl | ⟨rest, rfl⟩
  · rcases h with hnil | ⟨front, hfront⟩
    · exact absurd hnil hne
    · have hmem : '\n' ∈ line := by
        rw [List.append_nil] at hfront
        simp [hfront]
      exact absurd hmem hline
  · refine ⟨line, rest, rfl, hline, ?_⟩
    rcases h with hnil | ⟨front, hfront⟩
    · simp at hnil
    · rcases rest.eq_nil_or_concat' with rfl | ⟨init, c, rfl⟩
      · exact closed_nil
      · have hlast := congrArg List.getLast? hfront
        obtain rfl : c = '\n' := by simpa [List.getLast?_append, List.getLast?_cons] using hlast
        exact closed_snoc init

end Text

namespace Construction

/-- **What the walk puts in front of a line** is a piece of the document without carriage
returns: of `x`, `y` and `z`, the first two made of whole lines, it reads `y` back. -/
theorem above_lineAt? {x y : Text} (hx : Text.Closed x) (hy : Text.Closed y) (z : Text) :
    above (Text.lineAt? (x ++ y ++ z)) (x.count '\n') ((x ++ y).count '\n') = y.dropReturns := by
  obtain ⟨n, hn⟩ : ∃ n, y.count '\n' = n := ⟨_, rfl⟩
  induction n generalizing x y with
  | zero =>
    have hnil : y = [] := by
      rcases hy with rfl | ⟨front, rfl⟩
      · rfl
      · simp at hn
    subst hnil
    simp [above, Text.dropReturns]
  | succ n ih =>
    have hne : y ≠ [] := by
      rintro rfl
      simp at hn
    obtain ⟨line, rest, rfl, hline, hrest⟩ := Text.exists_line_of_closed hy hne
    have hcount : rest.count '\n' = n := by
      simpa [List.count_eq_zero_of_not_mem hline] using hn
    -- the first line moves to what stands before the others
    have hclosed : Text.Closed (x ++ line ++ ['\n']) := Text.closed_snoc _
    have hmoved : x ++ (line ++ '\n' :: rest) = x ++ line ++ ['\n'] ++ rest := by simp
    have hlow : (x ++ line ++ ['\n']).count '\n' = x.count '\n' + 1 := by
      simp [List.count_eq_zero_of_not_mem hline]
    have hindex : (x ++ line ++ ['\n'] ++ rest).count '\n' = x.count '\n' + 1 + n := by
      rw [List.count_append, hlow, hcount]
    have hfirst : Text.lineAt? (x ++ line ++ ['\n'] ++ rest ++ z) (x.count '\n') =
        some (Text.dropCarriageReturn line) := by
      have hfound := Text.lineAt?_of_row hx hline (Text.breaks_cons (rest ++ z))
      rwa [show x ++ line ++ '\n' :: (rest ++ z) = x ++ line ++ ['\n'] ++ rest ++ z by simp]
        at hfound
    have hstep := ih hclosed hrest hcount
    rw [hmoved, Text.dropReturns_line hline, ← hstep, hlow, hindex, above, above]
    have hrange : List.range' (x.count '\n') (x.count '\n' + 1 + n - x.count '\n') =
        x.count '\n' :: List.range' (x.count '\n' + 1)
          (x.count '\n' + 1 + n - (x.count '\n' + 1)) := by
      rw [show x.count '\n' + 1 + n - x.count '\n' = n + 1 by omega,
        show x.count '\n' + 1 + n - (x.count '\n' + 1) = n by omega, List.range'_succ]
    rw [hrange, List.flatMap_cons, hfirst]
    simp

/-- A class has no line feed to lose anything before. -/
theorem IsClass.dropReturns_append {name : Text} (h : IsClass name) (a b : Text) :
    Text.dropReturns (a ++ name ++ b) = a.dropReturns ++ name ++ b.dropReturns := by
  obtain ⟨c, rest, hcons, hblank⟩ := h.head
  have hc : c ≠ '\n' := by
    rintro rfl
    exact absurd hblank (by decide)
  have hlast : name.getLast? ≠ some '\r' := by
    rcases h with rfl | rfl <;> decide
  rw [List.append_assoc, hcons, List.cons_append, Text.dropReturns_append_cons a hc,
    ← List.cons_append, ← hcons, Text.dropReturns_append (Or.inl hlast),
    Text.dropReturns_of_notMem h.notMem.2, List.append_assoc]

theorem Introduces.dropReturns {t : Text} (h : Introduces t) : Introduces t.dropReturns := by
  obtain ⟨blanks, name, blanks', blanks'', hblanks, hne, hname, hblanks', hblanks'', rfl⟩ := h
  refine ⟨blanks.dropReturns, name, blanks'.dropReturns, blanks''.dropReturns,
    hblanks.dropReturns, fun hnil => hne (Text.dropReturns_eq_nil hnil), hname,
    hblanks'.dropReturns, hblanks''.dropReturns, ?_⟩
  have hopening : Text.dropReturns ('(' :: blanks'') = '(' :: blanks''.dropReturns :=
    Text.dropReturns_cons (Or.inl (by decide))
  rw [List.append_assoc, hname.dropReturns_append, Text.dropReturns_append_cons _ (by decide),
    hopening, List.append_assoc]
  simp

/-- **What ends in a construction still does without carriage returns.** -/
theorem Ends.dropReturns {t : Text} (h : Ends t) : Ends t.dropReturns := by
  obtain ⟨front, rest, hfront, hrest, rfl⟩ := h
  refine ⟨front.dropReturns, rest.dropReturns, ?_, hrest.dropReturns, ?_⟩
  · rw [Text.getLast?_dropReturns]
    exact hfront
  · have hkeyword : Text.dropReturns (keyword ++ rest) = keyword ++ rest.dropReturns :=
      Text.dropReturns_append (Or.inl (by decide))
    rw [List.append_assoc, List.append_assoc]
    exact (Text.dropReturns_append_cons front (by decide) _).trans (by rw [← hkeyword]; rfl)

end Construction

end Signpost
