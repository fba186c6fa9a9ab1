import Mathlib.Order.WellFounded
import Signpost.Proofs.Token.Passage

/-!
# The leftmost scan, told by offsets

`Signpost.Token.scan` goes through a line character by character. This file says what it finds
without going anywhere. A match has a **place**, four offsets of its line (`Signpost.Place`). A scan
that starts at an offset comes to the first place from there on (`Signpost.Place.Next`), and then to
the places of a scan that starts right behind that match (`Signpost.Place.Scanned`).

The description is the same for every grammar; a grammar only says which places there are. The token
under a column is then the token at a place that is scanned and whose columns cover it
(`Signpost.Token.find?_eq_some_iff_scanned`). In one direction, the scan is refused at every
character up to the next place and finds the match there (`Signpost.Token.scanFrom_of_next`). In the
other, the description never runs out before the scan does, because where there is any place, there
is a next one (`Signpost.Place.exists_next`).

Places that are scanned do not overlap (`Signpost.Place.Scanned.apart`), and the converse is what
makes the description useful: a place that no earlier one reaches over is scanned
(`Signpost.Place.scanned_of_clear`).
-/

namespace Signpost

/-- Where a match lies in its line, counted in characters. -/
structure Place where
  /-- Where the match begins. -/
  opened : Nat
  /-- Where its token begins. -/
  start : Nat
  /-- Right behind the token. -/
  stop : Nat
  /-- Right behind the match. -/
  closed : Nat
deriving DecidableEq, Repr

/-- The place of a match that begins at an offset. -/
def Enclosed.placeAt (e : Enclosed) (i : Nat) : Place :=
  ⟨i, i + e.opening.length, i + e.opening.length + e.content.length, i + e.text.length⟩

/-- The places of a line at which a recogniser finds something. -/
def Recogniser.Finds (recognise : Recogniser) (line : Text) (p : Place) : Prop :=
  ∃ e, recognise (line.drop p.opened) = some e ∧ p = e.placeAt p.opened

namespace Place

/-- The token at a place of a line. -/
def token (p : Place) (line : Text) : Token :=
  ⟨line.take p.start, (line.take p.stop).drop p.start, line.drop p.stop⟩

/-- The columns of the token at a place of a line. -/
def span (p : Place) (line : Text) : Span :=
  ⟨utf16Length (line.take p.start), utf16Length (line.take p.stop)⟩

theorem span_token {p : Place} (h : p.start ≤ p.stop) (line : Text) :
    (p.token line).span = p.span line := by
  have htake : line.take p.start ++ (line.take p.stop).drop p.start = line.take p.stop := by
    rw [← Nat.min_eq_left h, ← List.take_take, Nat.min_eq_left h, List.take_append_drop]
  rw [Token.span, token, span, ← utf16Length_append, htake]

/-- **The first of some places from an offset on.** -/
structure Next (found : Place → Prop) (offset : Nat) (p : Place) : Prop where
  /-- It is one of the places. -/
  isFound : found p
  /-- It begins at the offset or behind it. -/
  offset_le : offset ≤ p.opened
  /-- No other place is in between. -/
  least : ∀ q, found q → offset ≤ q.opened → p.opened ≤ q.opened

/-- **The places that a scan comes to**: the next one from its offset on, and then those of a scan
that starts right behind that match. -/
inductive Scanned (found : Place → Prop) : Nat → Place → Prop
  /-- The next place. -/
  | next {offset : Nat} {p : Place} (hp : Next found offset p) : Scanned found offset p
  /-- A place behind the next one. -/
  | later {offset : Nat} {p q : Place} (hp : Next found offset p)
      (hq : Scanned found p.closed q) : Scanned found offset q

/-- Where there is a place from an offset on, there is a next one. -/
theorem exists_next {found : Place → Prop} {offset : Nat} {q : Place} (hq : found q)
    (hle : offset ≤ q.opened) : ∃ p, Next found offset p := by
  obtain ⟨p, ⟨hp, hp'⟩, hleast⟩ := (measure Place.opened).wf.has_min
    {p | found p ∧ offset ≤ p.opened} ⟨q, hq, hle⟩
  exact ⟨p, hp, hp', fun r hr hr' => Nat.le_of_not_lt (hleast r ⟨hr, hr'⟩)⟩

theorem Scanned.isFound {found : Place → Prop} {offset : Nat} {p : Place}
    (h : Scanned found offset p) : found p := by
  induction h with
  | next hp => exact hp.isFound
  | later _ _ ih => exact ih

end Place

/-- A match gives the token at its place. -/
theorem Enclosed.token_placeAt (e : Enclosed) (front back : Text) :
    (e.placeAt front.length).token (front ++ (e.text ++ back)) = e.inside front back := by
  have hstart : (front ++ (e.text ++ back)).take (front.length + e.opening.length) =
      front ++ e.opening := by
    rw [List.take_length_add_append, text, List.append_assoc, List.append_assoc, List.take_left]
  have hstop : (front ++ (e.text ++ back)).take
      (front.length + e.opening.length + e.content.length) = front ++ e.opening ++ e.content := by
    rw [Nat.add_assoc, List.take_length_add_append, text,
      List.append_assoc (e.opening ++ e.content), ← List.length_append, List.take_left,
      List.append_assoc]
  have hafter : (front ++ (e.text ++ back)).drop
      (front.length + e.opening.length + e.content.length) = e.closing ++ back := by
    rw [Nat.add_assoc, List.drop_length_add_append, text,
      List.append_assoc (e.opening ++ e.content), ← List.length_append, List.drop_left]
  have hcontent : (front ++ e.opening ++ e.content).drop (front.length + e.opening.length) =
      e.content := by
    rw [← List.length_append, List.drop_left]
  rw [Place.token, placeAt, hstart, hstop, hafter, hcontent]
  rfl

namespace Recogniser

variable {recognise : Recogniser} {line : Text} {p : Place}

theorem Finds.span_token (h : recognise.Finds line p) : (p.token line).span = p.span line := by
  obtain ⟨e, -, hp⟩ := h
  refine Place.span_token ?_ line
  rw [hp]
  exact Nat.le_add_right _ _

theorem Finds.opened_lt_closed (hdelimited : recognise.Delimited) (h : recognise.Finds line p) :
    p.opened < p.closed := by
  obtain ⟨e, he, hp⟩ := h
  have hpos := List.length_pos_iff.2 (hdelimited.text_ne_nil he)
  rw [hp]
  exact Nat.lt_add_of_pos_right hpos

/-- A recogniser finds one thing at an offset. -/
theorem Finds.eq_of_opened_eq {q : Place} (hp : recognise.Finds line p)
    (hq : recognise.Finds line q) (h : p.opened = q.opened) : p = q := by
  obtain ⟨e, he, hp⟩ := hp
  obtain ⟨e', he', hq⟩ := hq
  rw [h, he'] at he
  obtain rfl := Option.some.inj he
  rw [hp, h, ← hq]

/-- The text around a match at a place. -/
theorem Finds.exists_append (hsound : recognise.Sound) (hdelimited : recognise.Delimited)
    (h : recognise.Finds line p) :
    ∃ front e back, line = front ++ (e.text ++ back) ∧ recognise (e.text ++ back) = some e ∧
      p = e.placeAt front.length := by
  obtain ⟨e, he, hp⟩ := h
  obtain ⟨back, hback⟩ := hsound _ _ he
  have hne : line.drop p.opened ≠ [] := by
    rw [hback]
    exact List.append_ne_nil_of_left_ne_nil (hdelimited.text_ne_nil he) back
  have hlength : (line.take p.opened).length = p.opened := by
    have hlt : p.opened < line.length := by
      by_contra hle
      exact hne (List.drop_eq_nil_of_le (Nat.le_of_not_lt hle))
    exact List.length_take_of_le (Nat.le_of_lt hlt)
  refine ⟨line.take p.opened, e, back, ?_, ?_, ?_⟩
  · rw [← hback, List.take_append_drop]
  · rw [← hback, he]
  · rw [hlength, ← hp]

/-- A match is found at its place. -/
theorem finds_placeAt {e : Enclosed} {back : Text} (h : recognise (e.text ++ back) = some e)
    (front : Text) :
    recognise.Finds (front ++ (e.text ++ back)) (e.placeAt front.length) := by
  refine ⟨e, ?_, rfl⟩
  rw [Enclosed.placeAt, List.drop_left, h]

end Recogniser

/-! ### Places that are scanned do not overlap -/

namespace Place

variable {recognise : Recogniser} {line : Text} {offset : Nat} {p q : Place}

/-- There is only one next place. -/
theorem Next.eq (hp : Next (recognise.Finds line) offset p)
    (hq : Next (recognise.Finds line) offset q) : p = q := by
  refine hp.isFound.eq_of_opened_eq hq.isFound (Nat.le_antisymm ?_ ?_)
  · exact hp.least q hq.isFound hq.offset_le
  · exact hq.least p hp.isFound hp.offset_le

theorem Scanned.offset_le (hdelimited : recognise.Delimited)
    (h : Scanned (recognise.Finds line) offset p) : offset ≤ p.opened := by
  induction h with
  | next hp => exact hp.offset_le
  | later hp _ ih =>
    have hle := hp.offset_le
    have hlt := hp.isFound.opened_lt_closed hdelimited
    omega

/-- **Of two places that are scanned, one ends before the other begins.** -/
theorem Scanned.apart (hdelimited : recognise.Delimited)
    (hp : Scanned (recognise.Finds line) offset p) (hq : Scanned (recognise.Finds line) offset q) :
    p = q ∨ p.closed ≤ q.opened ∨ q.closed ≤ p.opened := by
  induction hp with
  | next hp =>
    cases hq with
    | next hq => exact Or.inl (hp.eq hq)
    | later hfirst hq =>
      obtain rfl := hp.eq hfirst
      exact Or.inr (Or.inl (hq.offset_le hdelimited))
  | later hfirst hp ih =>
    cases hq with
    | next hq =>
      obtain rfl := hfirst.eq hq
      exact Or.inr (Or.inr (hp.offset_le hdelimited))
    | later hfirst' hq =>
      obtain rfl := hfirst.eq hfirst'
      exact ih hq

/-- **A place is scanned unless an earlier one reaches over it.** -/
theorem scanned_of_clear (hdelimited : recognise.Delimited) (hp : recognise.Finds line p)
    (hle : offset ≤ p.opened)
    (hclear : ∀ q, Scanned (recognise.Finds line) offset q → q.opened < p.opened →
      q.closed ≤ p.opened) : Scanned (recognise.Finds line) offset p := by
  -- every step takes the scan closer to the place
  induction hn : p.opened - offset using Nat.strongRecOn generalizing offset with
  | ind n ih =>
    obtain ⟨q, hq⟩ := exists_next hp hle
    rcases Nat.lt_or_ge q.opened p.opened with hbefore | hge
    · have hclosed := hclear q (.next hq) hbefore
      have hoffset := hq.offset_le
      have hlt := hq.isFound.opened_lt_closed hdelimited
      refine .later hq (ih (p.opened - q.closed) (by omega) hclosed ?_ rfl)
      exact fun r hr => hclear r (.later hq hr)
    · have hsame : q = p :=
        hq.isFound.eq_of_opened_eq hp (Nat.le_antisymm (hq.least p hp hle) hge)
      exact hsame ▸ .next hq

end Place

/-! ### The scan comes to these places -/

namespace Token

variable {recognise : Recogniser} {line seen rest : Text}

/-- **One step of the scan**: it is refused up to the next place, finds the token there, and goes
on right behind the match. -/
theorem scanFrom_of_next (hsound : recognise.Sound) (hdelimited : recognise.Delimited)
    (hline : line = seen ++ rest) {p : Place}
    (h : Place.Next (recognise.Finds line) seen.length p) :
    ∃ seen' rest', line = seen' ++ rest' ∧ seen'.length = p.closed ∧ rest'.length < rest.length ∧
      scanFrom recognise 0 seen.reverse rest =
        p.token line :: scanFrom recognise 0 seen'.reverse rest' := by
  obtain ⟨front, e, back, hmatch, he, rfl⟩ := h.isFound.exists_append hsound hdelimited
  have hne := hdelimited.text_ne_nil he
  have hprefix : seen <+: front :=
    List.prefix_of_prefix_length_le ⟨rest, hline.symm⟩ ⟨_, hmatch.symm⟩ h.offset_le
  obtain ⟨mid, rfl⟩ := hprefix
  obtain rfl : rest = mid ++ (e.text ++ back) := by
    have hsame : seen ++ rest = seen ++ (mid ++ (e.text ++ back)) := by
      rw [← hline, hmatch, List.append_assoc]
    exact List.append_cancel_left hsame
  -- a match in between would be at a place before the next one
  have hrefused : ∀ a c b, mid = a ++ c :: b → recognise (c :: b ++ (e.text ++ back)) = none := by
    rintro a c b rfl
    rcases hfound : recognise (c :: b ++ (e.text ++ back)) with _ | e'
    · rfl
    obtain ⟨back', hback'⟩ := hsound _ _ hfound
    rw [hback'] at hfound
    have hline' : line = (seen ++ a) ++ (e'.text ++ back') := by
      rw [hline, ← hback']
      simp
    have hearlier := Recogniser.finds_placeAt hfound (seen ++ a)
    rw [← hline'] at hearlier
    have hle := h.least _ hearlier (by simp [Enclosed.placeAt])
    simp only [Enclosed.placeAt, List.length_append, List.length_cons] at hle
    omega
  refine ⟨seen ++ mid ++ e.text, back, by simp [hmatch],
    by simp [Enclosed.placeAt, Nat.add_assoc], ?_, ?_⟩
  · have hpos := List.length_pos_iff.2 hne
    simp only [List.length_append]
    omega
  · rw [scanFrom_append_of_refused hrefused, scanFrom_of_match hne he, hmatch,
      Enclosed.token_placeAt]
    simp

/-- Where there is no place, the scan finds nothing. -/
theorem scanFrom_eq_nil (hsound : recognise.Sound) (hline : line = seen ++ rest)
    (h : ∀ q, recognise.Finds line q → ¬ seen.length ≤ q.opened) (seen' : Text) :
    scanFrom recognise 0 seen' rest = [] := by
  have hrefused : ∀ a c b, rest = a ++ c :: b → recognise (c :: b ++ []) = none := by
    rintro a c b rfl
    rcases hfound : recognise (c :: b ++ []) with _ | e
    · rfl
    obtain ⟨back, hback⟩ := hsound _ _ hfound
    rw [hback] at hfound
    rw [List.append_nil] at hback
    have hplace := Recogniser.finds_placeAt hfound (seen ++ a)
    rw [← hback, List.append_assoc, ← hline] at hplace
    exact absurd (by simp [Enclosed.placeAt]) (h _ hplace)
  have hscan := scanFrom_append_of_refused hrefused seen'
  rw [List.append_nil] at hscan
  rw [hscan, scanFrom]

theorem exists_scanned_of_mem (hsound : recognise.Sound) (hdelimited : recognise.Delimited)
    (hline : line = seen ++ rest) {k : Token} (hk : k ∈ scanFrom recognise 0 seen.reverse rest) :
    ∃ p, Place.Scanned (recognise.Finds line) seen.length p ∧ k = p.token line := by
  -- a match may be of any length, so the induction is on the length of what is left
  induction hn : rest.length using Nat.strongRecOn generalizing seen rest with
  | ind n ih =>
    by_cases hsome : ∃ q, recognise.Finds line q ∧ seen.length ≤ q.opened
    · obtain ⟨q, hq, hle⟩ := hsome
      obtain ⟨p, hp⟩ := Place.exists_next hq hle
      obtain ⟨seen', rest', hline', hlength, hshorter, hscan⟩ :=
        scanFrom_of_next hsound hdelimited hline hp
      rw [hscan] at hk
      rcases List.mem_cons.1 hk with rfl | hk
      · exact ⟨p, .next hp, rfl⟩
      · obtain ⟨q', hq', rfl⟩ := ih rest'.length (hn ▸ hshorter) hline' hk rfl
        exact ⟨q', .later hp (hlength ▸ hq'), rfl⟩
    · have hnone : ∀ q, recognise.Finds line q → ¬ seen.length ≤ q.opened :=
        fun q hq hle => hsome ⟨q, hq, hle⟩
      rw [scanFrom_eq_nil hsound hline hnone] at hk
      cases hk

theorem mem_scanFrom_of_scanned (hsound : recognise.Sound) (hdelimited : recognise.Delimited)
    {offset : Nat} {p : Place} (h : Place.Scanned (recognise.Finds line) offset p)
    (hline : line = seen ++ rest) (hoffset : seen.length = offset) :
    p.token line ∈ scanFrom recognise 0 seen.reverse rest := by
  induction h generalizing seen rest with
  | next hp =>
    obtain ⟨seen', rest', -, -, -, hscan⟩ :=
      scanFrom_of_next hsound hdelimited hline (hoffset.symm ▸ hp)
    rw [hscan]
    exact List.mem_cons_self
  | later hp _ ih =>
    obtain ⟨seen', rest', hline', hlength, -, hscan⟩ :=
      scanFrom_of_next hsound hdelimited hline (hoffset.symm ▸ hp)
    rw [hscan]
    exact List.mem_cons_of_mem _ (ih hline' hlength)

/-- **The tokens of a line are those at the places that are scanned.** -/
theorem mem_scan_iff_scanned (hsound : recognise.Sound) (hdelimited : recognise.Delimited)
    {k : Token} :
    k ∈ scan recognise line ↔
      ∃ p, Place.Scanned (recognise.Finds line) 0 p ∧ k = p.token line := by
  constructor
  · intro hk
    exact exists_scanned_of_mem hsound hdelimited (List.nil_append line).symm hk
  · rintro ⟨p, hp, rfl⟩
    exact mem_scanFrom_of_scanned hsound hdelimited hp (List.nil_append line).symm rfl

/-- **The token under a column is the one token that covers it.** -/
theorem find?_eq_some_iff_mem (hsound : recognise.Sound) (hdelimited : recognise.Delimited)
    {k : Token} {column : Nat} :
    find? recognise line column = some k ↔ k ∈ scan recognise line ∧ k.span.Covers column := by
  constructor
  · exact fun h => ⟨List.mem_of_find?_eq_some h, by simpa using List.find?_some h⟩
  · rintro ⟨hk, hcovers⟩
    obtain ⟨front, e, back, rfl, hpasses, hsome, rfl⟩ := exists_passes hsound hdelimited hk
    exact hpasses.find?_eq_some hdelimited hsome hcovers

/-- **What is under a column is at a place that is scanned**, for any way to say what the places
are. -/
theorem find?_eq_some_iff_scanned (hsound : recognise.Sound) (hdelimited : recognise.Delimited)
    {found : Place → Prop} (hfound : ∀ p, recognise.Finds line p ↔ found p) {k : Token}
    {column : Nat} :
    find? recognise line column = some k ↔
      ∃ p, Place.Scanned found 0 p ∧ (p.span line).Covers column ∧ k = p.token line := by
  obtain rfl : recognise.Finds line = found := funext fun p => propext (hfound p)
  rw [find?_eq_some_iff_mem hsound hdelimited, mem_scan_iff_scanned hsound hdelimited]
  constructor
  · rintro ⟨⟨p, hp, rfl⟩, hcovers⟩
    exact ⟨p, hp, hp.isFound.span_token ▸ hcovers, rfl⟩
  · rintro ⟨p, hp, hcovers, rfl⟩
    exact ⟨⟨p, hp, rfl⟩, hp.isFound.span_token.symm ▸ hcovers⟩

end Token

end Signpost
