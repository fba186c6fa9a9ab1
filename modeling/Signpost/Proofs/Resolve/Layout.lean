import Signpost.Proofs.Resolve.Target
import Signpost.Proofs.Text.Returns

/-!
# Every layout of a construction resolves

A construction may be written over as many lines as the walk is allowed to go back, with any
white space between its parts and any kind of line ending. However it is laid out
(`Signpost.Construction.Layout`), a cursor on its argument finds it:
`Signpost.Construction.Layout.resolve_eq_reference`.

The proof puts two pictures of the same text on top of each other. As a layout, the text is a
keyword and its surroundings; as a document, it is whole lines, then the line of the quote.
`Signpost.Construction.Layout.exists_picture` is the second picture, cut at the first line that
the walk may look at – which is never below the keyword, because the white space holds no more
line feeds than the walk may go back.
-/

namespace Signpost.Construction

/-- The parts of a text around a worker construction. -/
structure Shape where
  /-- What stands before the keyword. -/
  before : Text
  /-- The white space behind the keyword. -/
  gap : Text
  /-- The name of the class. -/
  name : Text
  /-- The white space behind the name. -/
  gap' : Text
  /-- The white space behind the parenthesis. -/
  gap'' : Text
  /-- The quote on both sides of the argument. -/
  quote : Char
  /-- The argument. -/
  reference : Text
  /-- What stands behind the closing quote. -/
  after : Text

namespace Shape

/-- What stands between the keyword and the opening quote. -/
def introduction (s : Shape) : Text :=
  s.gap ++ s.name ++ s.gap' ++ '(' :: s.gap''

/-- The text up to the opening quote. -/
def front (s : Shape) : Text :=
  s.before ++ keyword ++ s.introduction

/-- The whole text. -/
def text (s : Shape) : Text :=
  s.front ++ s.quote :: (s.reference ++ s.quote :: s.after)

/-- The range of the argument: from right behind the opening quote to right before the
closing one. -/
def origin (s : Shape) : Range :=
  ⟨.behind (s.front ++ [s.quote]), .behind (s.front ++ s.quote :: s.reference)⟩

end Shape

/-- **A construction as it may be laid out in a text.** The keyword is a word of its own, white
space stands where it may, and the argument is the name of a script. No quote comes before the
argument on its line, where it would open a string of its own. -/
structure Layout extends Shape where
  /-- The keyword is a word of its own. -/
  word : before.getLast?.any Text.isWordChar = false
  /-- White space stands behind the keyword. -/
  blank : Text.Blank gap
  /-- The keyword and the name are apart. -/
  apart : gap ≠ []
  /-- The class is one of workers. -/
  worker : IsClass name
  /-- White space stands behind the name. -/
  blank' : Text.Blank gap'
  /-- White space stands behind the parenthesis. -/
  blank'' : Text.Blank gap''
  /-- The argument stands in quotes. -/
  quoted : Script.IsQuote quote
  /-- No quote comes before it on its line. -/
  first : ∀ c ∈ toShape.front.sinceBreak, ¬ Script.IsQuote c
  /-- The argument ends at the closing quote. -/
  unquoted : quote ∉ reference
  /-- The argument stands on one line. -/
  unbroken : '\n' ∉ reference
  /-- The argument ends like the name of a script. -/
  script : ∃ stem ending, ending ∈ Script.endings ∧ stem ≠ [] ∧ reference = stem ++ ending
  /-- The argument does not start at the root. -/
  not_rooted : reference.head? ≠ some '/'
  /-- The argument does not look like a URL. -/
  no_scheme : ¬ Target.schemeMark <:+: reference

namespace Layout

theorem introduces (l : Layout) : Introduces l.introduction :=
  ⟨l.gap, l.name, l.gap', l.gap'', l.blank, l.apart, l.worker, l.blank', l.blank'', rfl⟩

theorem relative (l : Layout) : Target.Relative l.reference := by
  refine ⟨?_, l.not_rooted, l.no_scheme⟩
  obtain ⟨stem, ending, -, hstem, hreference⟩ := l.script
  rw [hreference]
  exact List.append_ne_nil_of_left_ne_nil hstem ending

theorem quote_ne (l : Layout) : l.quote ≠ '\n' ∧ l.quote ≠ '\r' := by
  rcases l.quoted with h | h
  · rw [h]
    decide
  · rw [h]
    decide

/-- Neither the name of the class nor the parenthesis breaks the line. -/
theorem count_introduction (l : Layout) :
    l.introduction.count '\n' = (l.gap ++ l.gap' ++ l.gap'').count '\n' := by
  simp [Shape.introduction, List.count_eq_zero_of_not_mem l.worker.notMem.2]

/-- What is left of a text behind a cut has its last character, or is empty. -/
theorem ends_of_append {x back introduction : Text}
    (hword : (x ++ back).getLast?.any Text.isWordChar = false) (h : Introduces introduction) :
    Ends (back ++ keyword ++ introduction) := by
  refine ⟨back, introduction, ?_, h, rfl⟩
  rcases back.eq_nil_or_concat' with rfl | ⟨init, c, rfl⟩
  · rfl
  · simpa [List.getLast?_append] using hword

/-- **The text of a layout as a document**: whole lines that the walk does not look at, whole
lines that it may look at, and the line of the argument. The last two end in the
construction. -/
theorem exists_picture (l : Layout) {limit : Nat}
    (hlimit : (l.gap ++ l.gap' ++ l.gap'').count '\n' ≤ limit) :
    ∃ x y b, l.front = x ++ y ++ b ∧ Text.Closed x ∧ Text.Closed y ∧ '\n' ∉ b ∧
      x.count '\n' = l.front.count '\n' - limit ∧ Ends (y ++ b) := by
  have hkeyword : keyword.count '\n' = 0 := by decide
  have hcount : l.front.count '\n' =
      l.before.count '\n' + (l.gap ++ l.gap' ++ l.gap'').count '\n' := by
    rw [Shape.front, List.count_append, List.count_append, l.count_introduction, hkeyword]
    omega
  -- the first line that the walk may look at starts before the keyword
  obtain ⟨x, line, after, hbefore, hx, -, -, hlow⟩ :=
    Text.exists_row (show l.front.count '\n' - limit ≤ l.before.count '\n' by omega)
  have hends : Ends (line ++ after ++ keyword ++ l.introduction) := by
    refine ends_of_append (x := x) ?_ l.introduces
    rw [← List.append_assoc, ← hbefore]
    exact l.word
  obtain ⟨y, b, hsplit, hy, hb⟩ :=
    Text.exists_closed_append (line ++ after ++ keyword ++ l.introduction)
  refine ⟨x, y, b, ?_, hx, hy, hb, hlow, hsplit ▸ hends⟩
  rw [Shape.front, hbefore, List.append_assoc x y b, ← hsplit]
  simp

/-- The line of the argument, whatever ends it. -/
theorem exists_line (l : Layout) {a b : Text} (hfront : l.front = a ++ b) (ha : Text.Closed a)
    (hb : '\n' ∉ b) :
    ∃ kept, Text.lineAt? l.text (l.front.count '\n') =
      some (b ++ l.quote :: (l.reference ++ l.quote :: kept)) := by
  obtain ⟨c, d, hafter, hc, hd⟩ := Text.exists_append_breaks l.after
  have hindex : l.front.count '\n' = a.count '\n' := by
    rw [hfront, List.count_append, List.count_eq_zero_of_not_mem hb, Nat.add_zero]
  have hline : '\n' ∉ b ++ l.quote :: (l.reference ++ [l.quote]) ++ c := by
    simp [hb, hc, l.unbroken, l.quote_ne.1.symm]
  have htext : l.text = a ++ (b ++ l.quote :: (l.reference ++ [l.quote]) ++ c) ++ d := by
    simp [Shape.text, hfront, hafter]
  -- the closing quote stands between the argument and the terminator
  have hcut : ¬ Text.SplitsBreak (b ++ l.quote :: (l.reference ++ [l.quote])) (c ++ d) := by
    rintro ⟨hlast, -⟩
    exact l.quote_ne.2 (by simpa [List.getLast?_append, List.getLast?_cons] using hlast)
  obtain ⟨kept, hkept⟩ := Text.dropCarriageReturn_append hd hcut
  refine ⟨kept, ?_⟩
  rw [hindex, htext, Text.lineAt?_of_row ha hline hd, hkept]
  simp

/-! ### The token -/

/-- The token of the argument, with what stands around it on its line. -/
def token (l : Layout) (b kept : Text) : Token :=
  Enclosed.inside ⟨[l.quote], l.reference, [l.quote]⟩ b kept

/-- **The argument is found under the cursor**: it is the first string of its line. -/
theorem at?_eq_some (l : Layout) {b kept : Text} (hfirst : ∀ c ∈ b, ¬ Script.IsQuote c)
    {column : Nat} (hcovers : (l.token b kept).span.Covers column) :
    Script.at? (b ++ l.quote :: (l.reference ++ l.quote :: kept)) column =
      some (l.token b kept) := by
  have htext : l.quote :: (l.reference ++ l.quote :: kept) =
      Enclosed.text ⟨[l.quote], l.reference, [l.quote]⟩ ++ kept := by
    simp [Enclosed.text]
  have hfound := Script.recognise_quoted l.quoted l.unquoted l.unbroken
    (Script.isName_iff.2 l.script) kept
  rw [htext] at hfound ⊢
  have hrefused : ∀ a c rest, b = a ++ c :: rest → Script.recognise (c :: rest ++
      (Enclosed.text ⟨[l.quote], l.reference, [l.quote]⟩ ++ kept)) = none := by
    rintro a c rest rfl
    exact Script.recognise_of_not_quote (hfirst c (by simp)) _
  obtain ⟨more, hscan⟩ := Token.scan_append (by simp [Enclosed.text]) hrefused hfound
  exact Token.find?_of_first hscan hcovers

/-- **The token of the argument has its range.** -/
theorem onLine_token (l : Layout) {a b : Text} (hfront : l.front = a ++ b) (ha : Text.Closed a)
    (hb : '\n' ∉ b) (kept : Text) :
    (l.token b kept).span.onLine (l.front.count '\n') = l.origin := by
  have hbehind : ∀ t, '\n' ∉ t →
      Position.behind (l.front ++ t) = ⟨l.front.count '\n', utf16Length (b ++ t)⟩ := by
    intro t ht
    have hbt : '\n' ∉ b ++ t := by simp [hb, ht]
    rw [Position.behind, List.count_append, List.count_eq_zero_of_not_mem ht, Nat.add_zero, hfront,
      List.append_assoc, Text.sinceBreak_append ha hbt]
  have hquote : '\n' ∉ [l.quote] := by simpa using l.quote_ne.1.symm
  have hreference : '\n' ∉ l.quote :: l.reference := by simp [l.unbroken, l.quote_ne.1.symm]
  rw [Shape.origin, hbehind _ hquote, hbehind _ hreference]
  simp [token, Enclosed.inside, Token.span, Span.onLine, Nat.add_assoc]

/-- A position in the range of a span on some line is on that line, and covered by the span. -/
theorem covers_of_mem_onLine {span : Span} {line : Nat} {position : Position}
    (hstart : (span.onLine line).start ≤ position) (hstop : position ≤ (span.onLine line).stop) :
    position.line = line ∧ span.Covers position.character := by
  simp only [Span.onLine, Position.le_iff] at hstart hstop
  unfold Span.Covers
  omega

/-! ### The construction -/

/-- **The walk back from the opening quote finds the construction.** -/
theorem verify_eq_true (l : Layout) {limit : Nat}
    (hlimit : (l.gap ++ l.gap' ++ l.gap'').count '\n' ≤ limit) :
    verify (Text.lineAt? l.text) (l.front.count '\n') (utf8Length l.front.sinceBreak) limit none =
      true := by
  obtain ⟨x, y, b, hfront, hx, hy, hb, hlow, hends⟩ := l.exists_picture hlimit
  have hclosed : Text.Closed (x ++ y) := hx.append hy
  obtain ⟨kept, hline⟩ := l.exists_line hfront hclosed hb
  have hindex : l.front.count '\n' = (x ++ y).count '\n' := by
    rw [hfront, List.count_append, List.count_eq_zero_of_not_mem hb, Nat.add_zero]
  have hlowest : lowest (l.front.count '\n') limit none = x.count '\n' := by
    rw [hlow, lowest]
    simp
  have hlines : ∀ n, lowest (l.front.count '\n') limit none ≤ n → n < l.front.count '\n' →
      (Text.lineAt? l.text n).isSome := by
    intro n _ hn
    have hlength : n < l.text.rows.length := by
      rw [Text.length_rows, Shape.text, List.count_append]
      omega
    rw [Text.lineAt?_eq_rows, List.getElem?_eq_getElem hlength]
    rfl
  have htext : l.text = x ++ y ++ (b ++ l.quote :: (l.reference ++ l.quote :: l.after)) := by
    simp [Shape.text, hfront]
  have hsince : l.front.sinceBreak = b := by rw [hfront, Text.sinceBreak_append hclosed hb]
  rw [hsince, verify_eq_true_iff hline hlines, hlowest, hindex, htext, window, above_lineAt? hx hy,
    ← Text.dropReturns_of_notMem hb, ← Text.dropReturns_closed_append hy]
  exact hends.dropReturns

/-- **Every layout of a construction resolves.** A cursor anywhere on the argument, both ends
included, gets the file that the argument leads to from the directory of the document, and the
range of exactly the argument – if the white space between the parts goes over no more lines
than the walk may go back, and the probe accepts the file. -/
theorem resolve_eq_reference (l : Layout) {s : Snapshot} {directory : Path} {limit : Nat}
    {probe : Probe} {position : Position} (htext : s.document.text = l.text)
    (hlimit : (l.gap ++ l.gap' ++ l.gap'').count '\n' ≤ limit)
    (hdirectory : s.directory? = some directory)
    (hprobe : probe (directory.join (.ofText l.reference)).clean = .ok ())
    (hstart : l.origin.start ≤ position) (hstop : position ≤ l.origin.stop) :
    ∃ target, target.path = (directory.join (.ofText l.reference)).clean ∧
      Url.ofPath? target.path = some target.url ∧
      (resolve .script s.source position limit probe).reference? = some ⟨l.origin, target⟩ := by
  obtain ⟨a, b, hfront, ha, hb⟩ := Text.exists_closed_append l.front
  have hsince : l.front.sinceBreak = b := by rw [hfront, Text.sinceBreak_append ha hb]
  obtain ⟨kept, hline⟩ := l.exists_line hfront ha hb
  have hspan := l.onLine_token hfront ha hb kept
  obtain ⟨hposition, hcovers⟩ := covers_of_mem_onLine (hspan ▸ hstart) (hspan ▸ hstop)
  have hat := l.at?_eq_some (hsince ▸ l.first) hcovers
  have hverified := l.verify_eq_true hlimit
  rw [hsince, ← Script.quoteByte_inside l.quoted l.reference b kept] at hverified
  have hsource : s.source.line = Text.lineAt? l.text := by
    rw [s.line_source, htext]
  -- the cursor finds the token, the walk accepts it, and only the lookup is left
  have hattempt : resolve .script s.source position limit probe =
      Attempt.lookUp s.source probe l.origin l.reference := by
    rw [resolve, Attempt.onScript, hsource, hposition, hline, Option.bind_some, hat]
    dsimp only
    rw [show s.source.declaration position = none from rfl, hspan]
    exact if_pos hverified
  obtain ⟨target, hpath, hurl, hfound⟩ := Lookup.target?_run_of_probe
    (Url.isAbsolute_directory? hdirectory) l.relative hprobe
  refine ⟨target, hpath, hurl, ?_⟩
  rw [hattempt]
  exact Attempt.reference?_lookUp_eq_some_iff.2 ⟨rfl, directory, hdirectory, hfound⟩

/-- A construction over four lines with both kinds of line endings, and a character of two
bytes before the argument. -/
def scattered : Layout where
  before := "let é = a,\r\n  w = ".toList
  gap := "\r\n\t".toList
  name := sharedWorker
  gap' := "\n".toList
  gap'' := "\r\n  ".toList
  quote := '"'
  reference := "../é/w.mjs".toList
  after := ", 'x')\r\n".toList
  word := by decide
  blank := by decide
  apart := by decide
  worker := Or.inr rfl
  blank' := by decide
  blank'' := by decide
  quoted := Or.inr rfl
  first := by
    refine fun c hc => of_decide_eq_true ?_
    revert c
    exact List.all_eq_true.1 (by decide +kernel)
  unquoted := by decide
  unbroken := by decide
  script := ⟨"../é/w".toList, ".mjs".toList, by decide, by decide, rfl⟩
  not_rooted := by decide
  no_scheme := by decide

/-- The cursor right behind the argument still finds it, with three lines to go back. -/
theorem resolve_scattered_eq_reference :
    let s : Snapshot := ⟨⟨Url.fileScheme, some .empty, "/a/b/c.ts".toList, none, none⟩,
      .ofText scattered.text none none⟩
    let probe : Probe := fun p =>
      if p = Path.ofString "/a/é/w.mjs" then .ok () else .error .notFound
    scattered.origin = ⟨⟨4, 3⟩, ⟨4, 13⟩⟩ ∧
    ∃ target, target.path = Path.ofString "/a/é/w.mjs" ∧
      Url.ofPath? target.path = some target.url ∧
      (resolve .script s.source ⟨4, 13⟩ 3 probe).reference? =
        some ⟨⟨⟨4, 3⟩, ⟨4, 13⟩⟩, target⟩ := by
  intro s probe
  have horigin : scattered.origin = ⟨⟨4, 3⟩, ⟨4, 13⟩⟩ := by decide +kernel
  have hdirectory : s.directory? = some (Path.ofString "/a/b") := by decide +kernel
  have hpath : ((Path.ofString "/a/b").join (.ofText scattered.reference)).clean =
      Path.ofString "/a/é/w.mjs" := by decide +kernel
  have hprobe : probe ((Path.ofString "/a/b").join (.ofText scattered.reference)).clean =
      .ok () := by
    rw [hpath]
    exact if_pos rfl
  have hlimit : (scattered.gap ++ scattered.gap' ++ scattered.gap'').count '\n' ≤ 3 := by
    decide +kernel
  have hstart : scattered.origin.start ≤ ⟨4, 13⟩ := by
    rw [horigin]
    decide
  have hstop : ⟨4, 13⟩ ≤ scattered.origin.stop := by
    rw [horigin]
    decide
  have hresolve := scattered.resolve_eq_reference rfl hlimit hdirectory hprobe hstart hstop
  rw [hpath, horigin] at hresolve
  exact ⟨horigin, hresolve⟩

end Layout

end Signpost.Construction
