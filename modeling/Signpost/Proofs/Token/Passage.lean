import Mathlib.Data.List.Infix
import Signpost.Proofs.Token.Scan

/-!
# What a scan has passed

A scan that has come to some place of a line has passed everything before it: characters at
which nothing starts, and whole matches. `Signpost.Token.Passes` says so step by step, always
with the rest of the line in view, for a recogniser may look as far ahead as it likes.

Every token is found at a place that the scan has come to (`Signpost.Token.exists_passes`), and
whatever is found at such a place is the token under its columns
(`Signpost.Token.Passes.find?_eq_some`): the matches before it have their closing delimiters in
between, so their spans do not reach it. To carry a token over from one line to another, it is
therefore enough to show that the scan of the other line passes the same text
(`Signpost.Token.Passes.congr`).
-/

namespace Signpost

/-- A recogniser whose matches have a closing delimiter. -/
def Recogniser.Delimited (recognise : Recogniser) : Prop :=
  ∀ t e, recognise t = some e → e.closing ≠ []

theorem Recogniser.Delimited.text_ne_nil {recognise : Recogniser} (h : recognise.Delimited)
    {t : Text} {e : Enclosed} (hsome : recognise t = some e) : e.text ≠ [] :=
  List.append_ne_nil_of_right_ne_nil _ (h t e hsome)

namespace Token

/-- **The scan of `front ++ rest` passes `front`** and then looks at `rest`. -/
inductive Passes (recognise : Recogniser) (rest : Text) : Text → Prop
  /-- There is nothing to pass. -/
  | nil : Passes recognise rest []
  /-- Nothing starts at a character. -/
  | refused {c : Char} {front : Text} (hnone : recognise (c :: front ++ rest) = none)
      (hfront : Passes recognise rest front) : Passes recognise rest (c :: front)
  /-- A match is passed as a whole. -/
  | matched {e : Enclosed} {front : Text} (hsome : recognise (e.text ++ front ++ rest) = some e)
      (hfront : Passes recognise rest front) : Passes recognise rest (e.text ++ front)

variable {recognise : Recogniser}

/-! ### One step of a scan -/

theorem scanFrom_length_append (a rest seen : Text) :
    scanFrom recognise a.length seen (a ++ rest) =
      scanFrom recognise 0 (a.reverse ++ seen) rest := by
  induction a generalizing seen with
  | nil => rfl
  | cons c a ih =>
    rw [List.length_cons, List.cons_append, scanFrom, ih]
    simp

/-- **A match gives a token**, and the scan goes on behind it. -/
theorem scanFrom_of_match {e : Enclosed} {back : Text} (hne : e.text ≠ [])
    (hsome : recognise (e.text ++ back) = some e) (seen : Text) :
    scanFrom recognise 0 seen (e.text ++ back) =
      e.inside seen.reverse back :: scanFrom recognise 0 (e.text.reverse ++ seen) back := by
  obtain ⟨c, rest, htext⟩ := List.exists_cons_of_ne_nil hne
  have hwidth : e.width - 1 = rest.length := by
    have hlength : e.width = e.text.length := by simp [Enclosed.width, Enclosed.text, Nat.add_assoc]
    rw [hlength, htext]
    rfl
  have hdrop : (c :: (rest ++ back)).drop (e.opening.length + e.content.length) =
      e.closing ++ back := by
    rw [← List.cons_append, ← htext]
    simp [Enclosed.text]
  rw [htext, List.cons_append] at hsome ⊢
  rw [scanFrom, hsome]
  dsimp only
  rw [hdrop, hwidth, scanFrom_length_append, List.reverse_cons, List.append_assoc]
  rfl

/-! ### Where tokens are found -/

theorem exists_passes_scanFrom (hsound : recognise.Sound) (hdelimited : recognise.Delimited)
    {k : Token} {t seen : Text} (h : k ∈ scanFrom recognise 0 seen t) :
    ∃ front e back, t = front ++ (e.text ++ back) ∧ Passes recognise (e.text ++ back) front ∧
      recognise (e.text ++ back) = some e ∧ k = e.inside (seen.reverse ++ front) back := by
  -- a match may be of any length, so the induction is on the length of what is left
  induction hn : t.length using Nat.strongRecOn generalizing t seen with
  | ind n ih =>
    cases t with
    | nil => cases h
    | cons c rest =>
      rcases hfound : recognise (c :: rest) with _ | e
      · rw [scanFrom, hfound] at h
        obtain ⟨front, e, back, rfl, hpasses, hsome, rfl⟩ := ih rest.length (by simp [← hn]) h rfl
        exact ⟨c :: front, e, back, rfl, .refused hfound hpasses, hsome, by simp⟩
      · have hne := hdelimited.text_ne_nil hfound
        obtain ⟨back, hback⟩ := hsound _ _ hfound
        rw [hback] at h hfound hn
        rw [scanFrom_of_match hne hfound] at h
        rcases List.mem_cons.1 h with rfl | h
        · exact ⟨[], e, back, hback, .nil, hfound, by simp⟩
        · have hshorter : back.length < n := by
            rw [← hn, List.length_append]
            have := List.length_pos_iff.2 hne
            omega
          obtain ⟨front, e', back', rfl, hpasses, hsome, rfl⟩ := ih back.length hshorter h rfl
          rw [← List.append_assoc] at hfound
          exact ⟨e.text ++ front, e', back', by rw [hback, List.append_assoc],
            .matched hfound hpasses, hsome, by simp⟩

/-- **Every token is found at a place that the scan has come to.** -/
theorem exists_passes (hsound : recognise.Sound) (hdelimited : recognise.Delimited) {k : Token}
    {line : Text} (h : k ∈ scan recognise line) :
    ∃ front e back, line = front ++ (e.text ++ back) ∧ Passes recognise (e.text ++ back) front ∧
      recognise (e.text ++ back) = some e ∧ k = e.inside front back := by
  simpa using exists_passes_scanFrom hsound hdelimited h

namespace Passes

variable {rest front : Text}

/-- The tokens of what a scan has passed end before it. -/
theorem scanFrom_eq (hdelimited : recognise.Delimited) (h : Passes recognise rest front)
    (seen : Text) :
    ∃ earlier, scanFrom recognise 0 seen (front ++ rest) =
        earlier ++ scanFrom recognise 0 (front.reverse ++ seen) rest ∧
      ∀ k ∈ earlier, k.span.stop < utf16Length (seen.reverse ++ front) := by
  induction h generalizing seen with
  | nil => exact ⟨[], rfl, by simp⟩
  | @refused c front hnone _ ih =>
    obtain ⟨earlier, hscan, hspans⟩ := ih (c :: seen)
    refine ⟨earlier, ?_, by simpa using hspans⟩
    rw [List.cons_append] at hnone ⊢
    rw [scanFrom, hnone]
    simpa using hscan
  | @matched e front hsome _ ih =>
    obtain ⟨earlier, hscan, hspans⟩ := ih (e.text.reverse ++ seen)
    have hne := hdelimited.text_ne_nil hsome
    rw [List.append_assoc] at hsome
    refine ⟨e.inside seen.reverse (front ++ rest) :: earlier, ?_, ?_⟩
    · rw [List.append_assoc, scanFrom_of_match hne hsome, hscan]
      simp
    · intro k hk
      rcases List.mem_cons.1 hk with rfl | hk
      · have hclosing := Text.utf16Length_pos (hdelimited _ _ hsome)
        simp only [span, Enclosed.inside, Enclosed.text, utf16Length_append]
        omega
      · simpa using hspans k hk

/-- **What is found where a scan has come to is the token under its columns.** -/
theorem find?_eq_some (hdelimited : recognise.Delimited) {e : Enclosed} {back : Text}
    (h : Passes recognise (e.text ++ back) front) (hsome : recognise (e.text ++ back) = some e)
    {column : Nat} (hcovers : (e.inside front back).span.Covers column) :
    find? recognise (front ++ (e.text ++ back)) column = some (e.inside front back) := by
  obtain ⟨earlier, hscan, hspans⟩ := h.scanFrom_eq hdelimited []
  have hlater := scanFrom_of_match (hdelimited.text_ne_nil hsome) hsome (front.reverse ++ [])
  have hnone : ∀ k ∈ earlier, ¬ k.span.Covers column := by
    intro k hk hk'
    have hbefore : k.span.stop < utf16Length front := by simpa using hspans k hk
    have hstart : utf16Length (front ++ e.opening) ≤ column := hcovers.1
    have hstop : column ≤ k.span.stop := hk'.2
    rw [utf16Length_append] at hstart
    omega
  rw [find?, scan, hscan, hlater, List.find?_append]
  rw [List.find?_eq_none.2 (by simpa using hnone), Option.none_or, List.find?_cons_of_pos]
  · simp
  · simpa using hcovers

/-- **The scan of another line passes the same text**, if it is refused at the same places and
finds the same matches. -/
theorem congr {rest' : Text} (h : Passes recognise rest front)
    (hnone : ∀ a, a ≠ [] → a <:+ front → recognise (a ++ rest) = none →
      recognise (a ++ rest') = none)
    (hsome : ∀ e a, e.text ++ a <:+ front → recognise (e.text ++ a ++ rest) = some e →
      recognise (e.text ++ a ++ rest') = some e) :
    Passes recognise rest' front := by
  induction h with
  | nil => exact .nil
  | @refused c front hrefused _ ih =>
    refine .refused (hnone _ (by simp) List.suffix_rfl hrefused) (ih ?_ ?_)
    · exact fun a hne ha => hnone a hne (ha.trans (List.suffix_cons c front))
    · exact fun e a ha => hsome e a (ha.trans (List.suffix_cons c front))
  | @matched e front hmatched _ ih =>
    refine .matched (hsome e front List.suffix_rfl hmatched) (ih ?_ ?_)
    · exact fun a hne ha => hnone a hne (ha.trans (List.suffix_append e.text front))
    · exact fun e' a ha => hsome e' a (ha.trans (List.suffix_append e.text front))

end Passes

end Token

end Signpost
