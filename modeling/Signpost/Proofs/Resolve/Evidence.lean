import Signpost.Proofs.Resolve.Target
import Signpost.Proofs.Token.Construction

/-!
# What a resolved reference rests on

When resolution names a target, there is something in the document to show for it: a token
under the cursor, marked as a reference by the grammar of the document
(`Signpost.Grammar.Marks`), and a path in the directory of the document that the probe
accepts. `Signpost.Evidence` is all of that in one structure, and
`Signpost.exists_evidence` says that every reference has some.

The two grammars mark their tokens in different ways. An include is marked by its line alone. A
script string is marked by the lines before it: what the walk may look at has to end in a
construction.
-/

namespace Signpost

/-- **A token that a grammar marks as a reference.** The token stands on line `index` of the
given lines, and constructions are looked for at most `limit` lines up. -/
inductive Grammar.Marks (line : Nat → Option Text) (index limit : Nat) : Grammar → Token → Prop
  /-- On a page, braces in a comment enclose the name of a page. -/
  | page {token : Token} (hopens : Include.Opens token.before)
      (hcloses : Include.Closes token.after)
      (hpage : (Path.ofText token.content).extension? = some (Utf8.encode "html".toList)) :
    Marks line index limit .page token
  /-- In a script, two equal quotes enclose the name of a script, behind a construction. -/
  | script {front stem ending back : Text} {quote : Char} (hquote : Script.IsQuote quote)
      (hstem : stem ≠ []) (hending : ending ∈ Script.endings)
      (hends : Construction.Ends (Construction.window line (index - limit) index front)) :
    Marks line index limit .script ⟨front ++ [quote], stem ++ ending, quote :: back⟩

/-- **What a resolved reference rests on**, in a document at one moment. -/
structure Evidence (grammar : Grammar) (s : Snapshot) (position : Position) (limit : Nat)
    (probe : Probe) where
  /-- The token under the cursor, with the line around it. -/
  token : Token
  /-- The directory of the document. -/
  directory : Path
  /-- The target. -/
  target : Target
  /-- The line of the cursor exists, and it is the line of the token. -/
  line_eq : s.document.text.rows[position.line]? = some token.line
  /-- The token has columns. -/
  start_lt_stop : token.span.start < token.span.stop
  /-- The cursor is on one of them, or right behind the last. -/
  covers : token.span.Covers position.character
  /-- The token is a relative reference. -/
  relative : Target.Relative token.content
  /-- The grammar marks it as one. -/
  marks : grammar.Marks (fun n => s.document.text.rows[n]?) position.line limit token
  /-- The document has a directory. -/
  directory_eq : s.url.directory? = some directory
  /-- The target is the clean path that the token leads to from there. -/
  path_eq : target.path = (directory.join (.ofText token.content)).clean
  /-- The URL of the target is the file URL of its path. -/
  url_eq : Url.ofPath? target.path = some target.url
  /-- The probe accepts the target. -/
  accepted : probe target.path = .ok ()

/-- The reference of some evidence: the range of the token, and the target. -/
def Evidence.reference {grammar : Grammar} {s : Snapshot} {position : Position} {limit : Nat}
    {probe : Probe} (e : Evidence grammar s position limit probe) : Reference :=
  ⟨e.token.span.onLine position.line, e.target⟩

namespace Token

theorem start_lt_stop {k : Token} (h : k.content ≠ []) : k.span.start < k.span.stop := by
  have hpos := Text.utf16Length_pos h
  simp only [span]
  omega

end Token

namespace Attempt

variable {source : Source} {position : Position} {limit : Nat} {probe : Probe} {r : Reference}

/-- A reference on a page is a token that the grammar of pages marks. -/
theorem reference?_onPage_eq_some
    (h : (onPage source position probe).reference? = some r) :
    ∃ token : Token, source.line position.line = some token.line ∧
      token.span.Covers position.character ∧
      Grammar.page.Marks source.line position.line limit token ∧
      (lookUp source probe (token.span.onLine position.line) token.content).reference? =
        some r := by
  rw [onPage] at h
  rcases hat : (source.line position.line).bind fun t => Include.at? t position.character
    with _ | token
  · rw [hat] at h
    cases h
  rw [hat] at h
  dsimp only at h
  split at h
  · rename_i hpage
    obtain ⟨line, hline, hfound⟩ := Option.bind_eq_some_iff.1 hat
    obtain ⟨front, e, back, rfl, hrecognised, rfl, hcovers⟩ :=
      Token.find?_eq_some Include.recognise_sound hfound
    obtain ⟨-, -, hopens, hcloses⟩ := Include.recognise_eq_some hrecognised
    refine ⟨e.inside front back, ?_, hcovers, .page (hopens front) (hcloses back) ?_, h⟩
    · rw [hline, Enclosed.line_inside]
    · exact of_decide_eq_true hpage
  · cases h

/-- A reference in a script is a token that the grammar of scripts marks. -/
theorem reference?_onScript_eq_some (hlines : ∀ n < position.line, (source.line n).isSome)
    (hnone : source.declaration position = none)
    (h : (onScript source position probe limit).reference? = some r) :
    ∃ token : Token, source.line position.line = some token.line ∧
      token.span.Covers position.character ∧
      Grammar.script.Marks source.line position.line limit token ∧
      (lookUp source probe (token.span.onLine position.line) token.content).reference? =
        some r := by
  rw [onScript] at h
  rcases hat : (source.line position.line).bind fun t => Script.at? t position.character
    with _ | token
  · rw [hat] at h
    cases h
  rw [hat] at h
  dsimp only at h
  split at h
  · rename_i hverified
    obtain ⟨line, hline, hfound⟩ := Option.bind_eq_some_iff.1 hat
    obtain ⟨front, e, back, rfl, hrecognised, rfl, hcovers⟩ :=
      Token.find?_eq_some Script.recognise_sound hfound
    obtain ⟨quote, -, hquote, he, hname, -⟩ := Script.recognise_eq_some hrecognised
    obtain ⟨stem, ending, hending, hstem, hcontent⟩ := Script.isName_iff.1 hname
    rw [hcontent] at he
    subst he
    rw [List.append_assoc] at hline
    have hlow : Construction.lowest position.line limit none = position.line - limit := by
      simp [Construction.lowest]
    -- what is verified is what stands on the line before the quote, and the lines above
    rw [Script.quoteByte_inside hquote, hnone,
      Construction.verify_eq_true_iff hline fun n _ hn => hlines n hn, hlow] at hverified
    refine ⟨Enclosed.inside _ front back, ?_, hcovers, .script hquote hstem hending hverified, h⟩
    rw [hline, Enclosed.line_inside, List.append_assoc]
  · cases h

end Attempt

/-- **Every resolved reference rests on evidence.** -/
theorem exists_evidence {grammar : Grammar} {s : Snapshot} {position : Position} {limit : Nat}
    {probe : Probe} {r : Reference}
    (h : (resolve grammar s.source position limit probe).reference? = some r) :
    ∃ e : Evidence grammar s position limit probe, r = e.reference := by
  have hsource : s.source.line = fun n => s.document.text.rows[n]? :=
    s.line_source.trans (funext fun n => Text.lineAt?_eq_rows s.document.text n)
  obtain ⟨token, hline, hcovers, hmarks, hfound⟩ : ∃ token : Token,
      s.source.line position.line = some token.line ∧ token.span.Covers position.character ∧
      grammar.Marks s.source.line position.line limit token ∧
      (Attempt.lookUp s.source probe (token.span.onLine position.line)
        token.content).reference? = some r := by
    cases grammar with
    | page => exact Attempt.reference?_onPage_eq_some h
    | script =>
      -- all lines above an existing line exist
      rcases hline : s.source.line position.line with _ | line
      · simp [resolve, Attempt.onScript, hline, Attempt.reference?] at h
      · have hindex : position.line < s.document.text.rows.length := by
          rw [hsource] at hline
          exact (List.getElem?_eq_some_iff.1 hline).1
        have hlines : ∀ n < position.line, (s.source.line n).isSome := by
          intro n hn
          rw [hsource]
          simp only [List.getElem?_eq_getElem (Nat.lt_trans hn hindex), Option.isSome_some]
        rw [← hline]
        exact Attempt.reference?_onScript_eq_some hlines rfl h
  obtain ⟨horigin, directory, hdirectory, htarget⟩ :=
    Attempt.reference?_lookUp_eq_some_iff.1 hfound
  obtain ⟨hrelative, hpath, haccepted, hurl⟩ := Lookup.target?_run_eq_some_iff.1 htarget
  rw [hsource] at hline hmarks
  refine ⟨⟨token, directory, r.target, hline, Token.start_lt_stop hrelative.ne_nil, hcovers,
    hrelative, hmarks, hdirectory, hpath, hurl, haccepted⟩, ?_⟩
  rw [Evidence.reference, ← horigin]

end Signpost
