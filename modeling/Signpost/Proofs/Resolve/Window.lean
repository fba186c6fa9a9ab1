import Signpost.Document.Basic
import Signpost.Proofs.Text.Fronts

/-!
# Resolution looks at a window

Resolution reads the line of the cursor and, in a script, at most so many lines above it
(`Signpost.Grammar.reach`). Nothing outside this window counts: two documents in the same
directory that have the same lines there come to the same, even if the windows are at different
heights (`Signpost.resolve_shift`).

So a change of the text that stays out of the window leaves resolution alone
(`Signpost.resolve_unaffected`). A change below the line of the cursor moves nothing. A change
above the window moves it as a whole, by as many lines as the change adds
(`Signpost.Change.drift`), and then the reference is found where its line has gone.
-/

namespace Signpost

/-! ### Moving by some lines -/

/-- The position some lines further down. -/
def Position.shift (p : Position) (d : Int) : Position :=
  ⟨(p.line + d).toNat, p.character⟩

/-- The range some lines further down. -/
def Range.shift (r : Range) (d : Int) : Range :=
  ⟨r.start.shift d, r.stop.shift d⟩

/-- The same attempt some lines further down: only the origin of a reference tells where it
was. -/
def Attempt.shift (d : Int) : Attempt → Attempt
  | lookedUp origin lookup => lookedUp (origin.shift d) lookup
  | other => other

@[simp] theorem Position.shift_zero (p : Position) : p.shift 0 = p := by
  simp [shift]

@[simp] theorem Position.shift_character (p : Position) (d : Int) :
    (p.shift d).character = p.character := rfl

@[simp] theorem Range.shift_zero (r : Range) : r.shift 0 = r := by
  simp [shift]

@[simp] theorem Attempt.shift_zero (a : Attempt) : a.shift 0 = a := by
  cases a <;> simp [shift]

/-! ### The window -/

/-- How many lines above the cursor a grammar may look at. -/
def Grammar.reach (limit : Nat) : Grammar → Nat
  | page => 0
  | script => limit

namespace Construction

/-- **The walk looks at no more lines than its budget allows**, and does not see their
numbers. -/
theorem walk_congr {line line' : Nat → Option Text} {index index' budget : Nat}
    (h : ∀ k < budget, line' (index' - (k + 1)) = line (index - (k + 1))) (search : Text) :
    walk line' index' budget search = walk line index budget search := by
  induction budget generalizing index index' search with
  | zero => rw [walk, walk]
  | succ budget ih =>
    have hfirst : line' (index' - 1) = line (index - 1) := h 0 (Nat.zero_lt_succ budget)
    have hrest : ∀ k < budget, line' (index' - 1 - (k + 1)) = line (index - 1 - (k + 1)) := by
      intro k hk
      rw [Nat.sub_sub, Nat.sub_sub, Nat.add_comm 1 (k + 1)]
      exact h (k + 1) (Nat.succ_lt_succ hk)
    rw [walk, walk, hfirst]
    simp only [ih hrest]

/-- **What is verified of a quote depends on the window only.** -/
theorem verify_congr {line line' : Nat → Option Text} {index index' limit : Nat}
    (hheight : min index' limit = min index limit)
    (h : ∀ k ≤ min index limit, line' (index' - k) = line (index - k)) (quote : Nat) :
    verify line' index' quote limit none = verify line index quote limit none := by
  have hbudget : ∀ i, i - lowest i limit none = min i limit := by
    intro i
    simp only [lowest]
    omega
  have hline : line' index' = line index := h 0 (Nat.zero_le _)
  rw [verify, verify, hline, hbudget, hbudget, hheight]
  split
  · rfl
  · exact walk_congr (fun k hk => h (k + 1) hk) _

end Construction

/-- A lookup does not depend on where its reference stands. -/
theorem Attempt.lookUp_shift {source source' : Source} (h : source'.directory = source.directory)
    (probe : Probe) (origin : Range) (reference : Text) (d : Int) :
    lookUp source' probe (origin.shift d) reference =
      (lookUp source probe origin reference).shift d := by
  rw [lookUp, lookUp, h]
  split <;> rfl

/-- **Nothing but the window counts.** Two documents in the same directory with the same lines
in the window come to the same, up to the height of the window. -/
theorem resolve_shift {source source' : Source} {grammar : Grammar} {position : Position}
    {limit : Nat} {d : Int} (hdirectory : source'.directory = source.directory)
    (hnone : source.declaration position = none)
    (hnone' : source'.declaration (position.shift d) = none)
    (hheight : min (position.shift d).line (grammar.reach limit) =
      min position.line (grammar.reach limit))
    (hlines : ∀ k ≤ min position.line (grammar.reach limit),
      source'.line ((position.shift d).line - k) = source.line (position.line - k))
    (probe : Probe) :
    resolve grammar source' (position.shift d) limit probe =
      (resolve grammar source position limit probe).shift d := by
  have hline : source'.line (position.shift d).line = source.line position.line :=
    hlines 0 (Nat.zero_le _)
  have hlookUp : ∀ k : Token, Attempt.lookUp source' probe
      (k.span.onLine (position.shift d).line) k.content =
      (Attempt.lookUp source probe (k.span.onLine position.line) k.content).shift d :=
    fun k => Attempt.lookUp_shift hdirectory probe (k.span.onLine position.line) k.content d
  cases grammar with
  | page =>
    simp only [resolve, Attempt.onPage, hline, Position.shift_character, hlookUp]
    rcases (source.line position.line).bind fun t => Include.at? t position.character with _ | k
    · rfl
    · by_cases hpage : Attempt.namesPage k.content = true
      · simp only [if_pos hpage]
      · simp only [if_neg hpage]
        rfl
  | script =>
    simp only [resolve, Attempt.onScript, hline, Position.shift_character, hlookUp, hnone, hnone']
    rcases (source.line position.line).bind fun t => Script.at? t position.character with _ | k
    · rfl
    · have hverify := Construction.verify_congr hheight hlines (Script.quoteByte k)
      simp only [Grammar.reach] at hverify
      by_cases hconstructed : Construction.verify source.line position.line (Script.quoteByte k)
          limit none = true
      · simp only [hverify, if_pos hconstructed]
      · simp only [hverify, if_neg hconstructed]
        rfl

/-! ### Changes -/

namespace Change

/-- By how many lines a change of a range moves what stands behind it: the line feeds that it
brings, less those that it takes away. -/
def drift (range : Range) (replacement : Text) : Int :=
  replacement.count '\n' - ((range.stop.line : Int) - range.start.line)

/-- **A change of a range in order** replaces a part of the text that starts and ends on the
lines of the range. -/
theorem exists_apply_of_le {t : Text} {range : Range}
    (hle : range.start.line ≤ range.stop.line) (hstop : range.stop.line ≤ t.count '\n') :
    ∃ a middle back, t = a ++ middle ++ back ∧ a.count '\n' = range.start.line ∧
      (a ++ middle).count '\n' = range.stop.line ∧
      ∀ replacement, Change.apply ⟨some range, replacement⟩ t = a ++ replacement ++ back := by
  have hstart := Text.count_front (Nat.le_trans hle hstop)
  have hend := Text.count_front hstop
  obtain ⟨a, middle, back, htext, hfront, hreach, happly⟩ := exists_apply t range
  rw [hfront] at hstart
  refine ⟨a, middle, back, htext, hstart, ?_, happly⟩
  rcases hreach with hreach | ⟨rfl, hprefix⟩
  · rw [← hreach, hend]
  · -- an end in front of the start is on the same line
    have hcount := hprefix.sublist.count_le '\n'
    rw [List.append_nil]
    omega

end Change

/-- **A change outside its window does not affect resolution.** Take a change of a range whose
two ends are in order and on lines of the text. If it starts below the line of the cursor,
resolution comes to the same as before. If it ends above the window, resolution comes to the
same on the line to which that of the cursor has moved, and only the origin of the reference has
moved with it. -/
theorem resolve_unaffected {t : Text} {range : Range} (hle : range.start ≤ range.stop)
    (hstop : (t.lineAt? range.stop.line).isSome) (replacement : Text) (grammar : Grammar)
    (url : Url) (language : Option String) (version : Option Int) (position : Position)
    (limit : Nat) (probe : Probe) :
    let before := (Snapshot.mk url (.ofText t language version)).source
    let after := (Snapshot.mk url
      (.ofText (Change.applyAll [⟨some range, replacement⟩] t) language version)).source
    let d := Change.drift range replacement
    (position.line < range.start.line →
      resolve grammar after position limit probe = resolve grammar before position limit probe) ∧
    (range.stop.line + grammar.reach limit < position.line →
      0 ≤ (position.line : Int) + d ∧
      resolve grammar after (position.shift d) limit probe =
        (resolve grammar before position limit probe).shift d) := by
  intro before after d
  have hlines : range.start.line ≤ range.stop.line := by
    rw [Position.le_iff] at hle
    omega
  obtain ⟨a, middle, back, htext, hstart, hend, happly⟩ :=
    Change.exists_apply_of_le hlines (Text.isSome_lineAt?_iff.1 hstop)
  have hbefore : before.line = Text.lineAt? (a ++ middle ++ back) := by
    rw [← htext]
    exact Snapshot.line_source _
  have hafter : after.line = Text.lineAt? (a ++ replacement ++ back) := by
    rw [← happly]
    exact Snapshot.line_source (Snapshot.mk url (.ofText (Change.applyAll [_] t) language version))
  have hdirectory : after.directory = before.directory := rfl
  have hnone : ∀ p, before.declaration p = none := fun _ => rfl
  have hnone' : ∀ p, after.declaration p = none := fun _ => rfl
  constructor
  · intro habove
    have hresolve : resolve grammar after (position.shift 0) limit probe =
        (resolve grammar before position limit probe).shift 0 := by
      refine resolve_shift hdirectory (hnone _) (hnone' _) (by rw [Position.shift_zero])
        (fun k _ => ?_) probe
      -- the lines up to that of the cursor end before the change
      rw [Position.shift_zero, hbefore, hafter, List.append_assoc, List.append_assoc]
      exact Text.lineAt?_append_left a (by omega) _ _
    rwa [Position.shift_zero, Attempt.shift_zero] at hresolve
  · intro hbelow
    have hcount : ((a ++ replacement).count '\n' : Int) = range.stop.line + d := by
      rw [List.count_append, hstart]
      simp only [d, Change.drift]
      omega
    have hmoved : (position.shift d).line = (position.line + d).toNat := rfl
    have hheight : min (position.shift d).line (grammar.reach limit) =
        min position.line (grammar.reach limit) := by omega
    refine ⟨by omega, resolve_shift hdirectory (hnone _) (hnone' _) hheight (fun k hk => ?_) probe⟩
    -- the lines of the window start behind the change
    obtain ⟨n, hn⟩ : ∃ n, position.line - k = range.stop.line + (n + 1) :=
      ⟨position.line - k - range.stop.line - 1, by omega⟩
    have hn' : (position.shift d).line - k = (a ++ replacement).count '\n' + (n + 1) := by omega
    rw [hbefore, hafter, hn, hn', ← hend]
    exact Text.lineAt?_append_right _ _ back n

/-- A script whose second and third line are replaced by three others: the first line stays,
and what is looked up from the last one is found two lines further down. -/
theorem resolve_unaffected_two_workers :
    let t : Text := "new Worker('./b.ts')\na\nb\nnew Worker(\n'./b.ts')".toList
    let range : Range := ⟨⟨1, 0⟩, ⟨2, 1⟩⟩
    let url : Url := ⟨Url.fileScheme, some .empty, "/a/c.js".toList, none, none⟩
    let probe : Probe := fun p => if p = Path.ofString "/a/b.ts" then .ok () else .error .notFound
    let after := (Snapshot.mk url
      (.ofText (Change.applyAll [⟨some range, "x\n\n\n".toList⟩] t) none none)).source
    (range.start ≤ range.stop ∧ (t.lineAt? range.stop.line).isSome) ∧
      (resolve .script after ⟨0, 13⟩ 1 probe).reference?.map Reference.origin =
        some ⟨⟨0, 12⟩, ⟨0, 18⟩⟩ ∧
      (resolve .script after ⟨6, 3⟩ 1 probe).reference?.map Reference.origin =
        some ⟨⟨6, 1⟩, ⟨6, 7⟩⟩ := by
  intro t range url probe after
  have hle : range.start ≤ range.stop := by decide
  have hstop : (t.lineAt? range.stop.line).isSome := by decide +kernel
  refine ⟨⟨hle, hstop⟩, ?_, ?_⟩
  · rw [(resolve_unaffected hle hstop _ .script url none none ⟨0, 13⟩ 1 probe).1 (by decide)]
    decide +kernel
  · have hmoved := ((resolve_unaffected hle hstop "x\n\n\n".toList .script url none none ⟨4, 3⟩ 1
      probe).2 (by decide)).2
    have hposition : (⟨4, 3⟩ : Position).shift (Change.drift range "x\n\n\n".toList) = ⟨6, 3⟩ := by
      decide +kernel
    rw [hposition] at hmoved
    rw [hmoved]
    decide +kernel

end Signpost
