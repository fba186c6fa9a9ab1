import Mathlib.Data.List.Find
import Mathlib.Data.List.Pairwise
import Signpost.Proofs.Text.Fronts
import Signpost.Proofs.Token.Grammar

/-!
# The columns of tokens

Columns are how a token is chosen and how it is reported, and this file settles both.

**Choosing.** A cursor right behind a token is still on it, so two tokens that touched would share a
column, and it would matter which of them is looked at first. What keeps them apart are the
delimiters: between the paths of two includes stand a closing and an opening part, between two
script strings at least their two quotes. `Signpost.Recogniser.Margins` counts these columns, and
`Signpost.Token.scan_pairwise` says that a scan keeps that distance between any two of its tokens.
So a column chooses one token or none, and the order does not matter
(`Signpost.Token.selectsOne_at?`).

**Reporting.** The range of a token is its columns on its line, and a client that goes by them comes
to the bytes of the document between which the token is written (`Signpost.Range.Addresses`).
The columns are counted on the line without its terminator, the bytes from the start of the
document; the two meet because a line that is found is a piece of the document
(`Signpost.Text.exists_around_of_lineAt?`).
-/

namespace Signpost

/-! ### The distance between tokens -/

/-- A recogniser whose delimiters are at least so many columns wide. -/
structure Recogniser.Margins (recognise : Recogniser) (left right : Nat) : Prop where
  /-- What opens a match has `left` columns. -/
  opening : ∀ t e, recognise t = some e → left ≤ utf16Length e.opening
  /-- What closes a match has `right` columns. -/
  closing : ∀ t e, recognise t = some e → right ≤ utf16Length e.closing

namespace Token

section Margins

variable {recognise : Recogniser} {left right : Nat}

/-- What is found from some place on starts behind it, with its opening delimiter in between. -/
theorem le_start_of_mem_scanFrom (hsound : recognise.Sound) (hdelimited : recognise.Delimited)
    (hmargins : recognise.Margins left right) {seen t : Text} {k : Token}
    (hk : k ∈ scanFrom recognise 0 seen t) : utf16Length seen.reverse + left ≤ k.span.start := by
  obtain ⟨front, e, back, -, -, hsome, rfl⟩ := exists_passes_scanFrom hsound hdelimited hk
  have hopening := hmargins.opening _ _ hsome
  simp only [span, Enclosed.inside, utf16Length_append]
  omega

theorem scanFrom_pairwise (hsound : recognise.Sound) (hdelimited : recognise.Delimited)
    (hmargins : recognise.Margins left right) (seen t : Text) :
    (scanFrom recognise 0 seen t).Pairwise fun k k' =>
      k.span.stop + (right + left) ≤ k'.span.start := by
  -- a match may be of any length, so the induction is on the length of what is left
  induction hn : t.length using Nat.strongRecOn generalizing t seen with
  | ind n ih =>
    cases t with
    | nil => exact .nil
    | cons c rest =>
      rcases hfound : recognise (c :: rest) with _ | e
      · rw [scanFrom, hfound]
        exact ih rest.length (by simp [← hn]) _ _ rfl
      · have hne := hdelimited.text_ne_nil hfound
        obtain ⟨back, hback⟩ := hsound _ _ hfound
        rw [hback] at hfound hn ⊢
        have hshorter : back.length < n := by
          have hpos := List.length_pos_iff.2 hne
          rw [← hn, List.length_append]
          omega
        rw [scanFrom_of_match hne hfound]
        refine List.pairwise_cons.2 ⟨fun k hk => ?_, ih back.length hshorter _ _ rfl⟩
        have hstart := le_start_of_mem_scanFrom hsound hdelimited hmargins hk
        have hclosing := hmargins.closing _ _ hfound
        rw [List.reverse_append, List.reverse_reverse, Enclosed.text] at hstart
        simp only [utf16Length_append] at hstart
        show utf16Length (seen.reverse ++ e.opening) + utf16Length e.content + (right + left) ≤
          k.span.start
        rw [utf16Length_append]
        omega

/-- **The tokens of a line keep their distance**: between any two of them stand the delimiter that
closes one and the delimiter that opens the other. -/
theorem scan_pairwise (hsound : recognise.Sound) (hdelimited : recognise.Delimited)
    (hmargins : recognise.Margins left right) (line : Text) :
    (scan recognise line).Pairwise fun k k' => k.span.stop + (right + left) ≤ k'.span.start :=
  scanFrom_pairwise hsound hdelimited hmargins [] line

end Margins

/-- **A column selects at most one of some tokens**, and it selects the same one in whatever order
they are visited. -/
structure SelectsOne (tokens : List Token) (column : Nat) (selected : Option Token) : Prop where
  /-- No two of the tokens are under the column. -/
  length_le : (tokens.filter fun k => k.span.Covers column).length ≤ 1
  /-- The first one that is found is always the same. -/
  find?_eq : ∀ visited : List Token, visited.Perm tokens →
    (visited.find? fun k => k.span.Covers column) = selected

/-- Tokens that do not touch leave a column no choice. -/
theorem selectsOne_find? {tokens : List Token}
    (h : tokens.Pairwise fun k k' => k.span.stop < k'.span.start) (column : Nat) :
    SelectsOne tokens column (tokens.find? fun k => k.span.Covers column) := by
  have hdisjoint : tokens.Pairwise fun k k' => ¬ (k.span.Covers column ∧ k'.span.Covers column) := by
    refine h.imp ?_
    rintro k k' hlt ⟨⟨-, hstop⟩, ⟨hstart, -⟩⟩
    omega
  have hle : (tokens.filter fun k => k.span.Covers column).length ≤ 1 := by
    have hfilter := hdisjoint.filter fun k => decide (k.span.Covers column)
    rcases hlist : tokens.filter fun k => decide (k.span.Covers column) with _ | ⟨k, _ | ⟨k', more⟩⟩
    · simp [hlist]
    · simp [hlist]
    · have hcovers : ∀ q ∈ k :: k' :: more, q.span.Covers column := by
        intro q hq
        rw [← hlist] at hq
        simpa using (List.mem_filter.1 hq).2
      rw [hlist] at hfilter
      have hnot := List.rel_of_pairwise_cons hfilter List.mem_cons_self
      exact absurd ⟨hcovers k (by simp), hcovers k' (by simp)⟩ hnot
  refine ⟨hle, fun visited hperm => (List.find?_eq_find?_of_perm hperm.symm ?_).symm⟩
  rintro k ⟨hk, hcovers⟩ k' ⟨hk', hcovers'⟩
  have hmem : k ∈ tokens.filter fun k => k.span.Covers column := List.mem_filter.2 ⟨hk, hcovers⟩
  have hmem' : k' ∈ tokens.filter fun k => k.span.Covers column :=
    List.mem_filter.2 ⟨hk', hcovers'⟩
  obtain ⟨q, hq⟩ : ∃ q, tokens.filter (fun k => k.span.Covers column) = [q] :=
    List.length_eq_one_iff.1 (Nat.le_antisymm hle (List.length_pos_of_mem hmem))
  rw [hq, List.mem_singleton] at hmem hmem'
  rw [hmem, hmem']

end Token

/-! ### The delimiters of the two grammars -/

theorem Include.margins : Recogniser.Margins recognise 6 5 := by
  refine ⟨fun t e h => ?_, fun t e h => ?_⟩
  · obtain ⟨front, blanks, blanks', -, -, hopening⟩ := (recognise_eq_some h).2.2.1 []
    have hstart : utf16Length commentStart = 4 := by decide
    have hbraces : utf16Length braces = 2 := by decide
    rw [List.nil_append] at hopening
    simp only [hopening, utf16Length_append, hstart, hbraces]
    omega
  · -- nothing behind a match is needed to close it
    obtain ⟨blanks, blanks', back, -, -, hclosing⟩ := (recognise_eq_some h).2.2.2 []
    have hbraces : utf16Length closingBraces = 2 := by decide
    have hstop : utf16Length commentStop = 3 := by decide
    rw [List.append_nil] at hclosing
    simp only [hclosing, utf16Length_append, hbraces, hstop]
    omega

theorem Script.margins : Recogniser.Margins recognise 1 1 := by
  have hquoted : ∀ t e, recognise t = some e →
      1 ≤ utf16Length e.opening ∧ 1 ≤ utf16Length e.closing := by
    intro t e h
    obtain ⟨quote, -, -, he, -⟩ := recognise_eq_some h
    have hpos := utf16Size_pos quote
    rw [he]
    simp only [utf16Length_cons, utf16Length_nil]
    omega
  exact ⟨fun t e h => (hquoted t e h).1, fun t e h => (hquoted t e h).2⟩

/-- **A column selects one token or none**, on a page and in a script, and the order in which the
tokens of the line are visited does not matter: eleven columns stand between the paths of two
includes, and two between two script strings. -/
theorem Token.selectsOne_at? (line : Text) (column : Nat) :
    (Include.tokens line).Pairwise (fun k k' => k.span.stop + 11 ≤ k'.span.start) ∧
    SelectsOne (Include.tokens line) column (Include.at? line column) ∧
    (Script.tokens line).Pairwise (fun k k' => k.span.stop + 2 ≤ k'.span.start) ∧
    SelectsOne (Script.tokens line) column (Script.at? line column) := by
  have hincludes : (Include.tokens line).Pairwise fun k k' => k.span.stop + 11 ≤ k'.span.start :=
    scan_pairwise Include.recognise_sound Include.recognise_delimited Include.margins line
  have hscripts : (Script.tokens line).Pairwise fun k k' => k.span.stop + 2 ≤ k'.span.start :=
    scan_pairwise Script.recognise_sound Script.recognise_delimited Script.margins line
  refine ⟨hincludes, selectsOne_find? (hincludes.imp ?_) column, hscripts,
    selectsOne_find? (hscripts.imp ?_) column⟩
  · intro k k' h
    omega
  · intro k k' h
    omega

/-- Two includes and two script strings with nothing in between, visited from the right. A cursor
right behind the first token is on it, one column further it is on none. -/
theorem Token.selectsOne_at?_adjacent :
    let page : Text := "<!--\x7b\x7ba\x7d\x7d--><!--\x7b\x7bb\x7d\x7d-->".toList
    let script : Text := "'a.ts'\"b.ts\"".toList
    (Include.tokens page).map (fun k => (k.content, k.span)) =
        [("a".toList, ⟨6, 7⟩), ("b".toList, ⟨18, 19⟩)] ∧
      ((Include.tokens page).reverse.find? fun k => k.span.Covers 7) = Include.at? page 7 ∧
      Include.at? page 7 = some ⟨page.take 6, "a".toList, page.drop 7⟩ ∧
      (Script.tokens script).map (fun k => (k.content, k.span)) =
        [("a.ts".toList, ⟨1, 5⟩), ("b.ts".toList, ⟨7, 11⟩)] ∧
      ((Script.tokens script).reverse.find? fun k => k.span.Covers 6) = Script.at? script 6 ∧
      Script.at? script 6 = none := by
  intro page script
  obtain ⟨-, hpage, -, -⟩ := selectsOne_at? page 7
  obtain ⟨-, -, -, hscript⟩ := selectsOne_at? script 6
  exact ⟨by decide +kernel, hpage.find?_eq _ (List.reverse_perm _), by decide +kernel,
    by decide +kernel, hscript.find?_eq _ (List.reverse_perm _), by decide +kernel⟩

/-! ### The bytes of a token -/

/-- **A line that is found is a piece of its text.** It starts where its number says, and the column
of a boundary of the line leads to the byte of that boundary in the text. -/
theorem Text.exists_around_of_lineAt? {t line : Text} {n : Nat} (h : lineAt? t n = some line) :
    ∃ before after, t = before ++ line ++ after ∧
      (lineStarts t)[n]? = some (utf8Length before) ∧
      ∀ a b, line = a ++ b → offsetOf? t ⟨n, utf16Length a⟩ = some (utf8Length (before ++ a)) := by
  obtain ⟨before, raw, after, rfl, hb, hl, ha, rfl, rfl⟩ := exists_row_of_lineAt? h
  obtain ⟨tail, htail⟩ := dropCarriageReturn_isPrefix raw
  refine ⟨before, tail ++ after, ?_, ?_, fun a b hab => ?_⟩
  · conv_lhs => rw [← htail]
    simp
  · rw [List.append_assoc]
    exact lineStarts_getElem?_count hb (raw ++ after)
  · rw [offsetOf?_of_row hb hl ha, hab, takeColumns_append]

/-- **A range addresses a piece of a text**: its ends are on one line and in order, they lead to two
byte offsets of the text, and the piece is what the text reads between these. -/
structure Range.Addresses (range : Range) (t : Text) (line first last : Nat) (piece : Text) :
    Prop where
  /-- The range starts on the line. -/
  start_line : range.start.line = line
  /-- It ends on the same line. -/
  stop_line : range.stop.line = line
  /-- It is not empty. -/
  start_lt_stop : range.start.character < range.stop.character
  /-- Its start leads to the first offset. -/
  offset_start : t.offsetOf? range.start = some first
  /-- Its end leads to the last offset. -/
  offset_stop : t.offsetOf? range.stop = some last
  /-- The piece stands between the two. -/
  slice_eq : t.slice? first last = some piece

namespace Token

/-- The bytes of a token have columns, namely those of the token. -/
theorem ofBytes?_line (k : Token) : Span.ofBytes? k.line k.startByte k.stopByte = some k.span := by
  have hstart : Text.columnOfByte? k.line k.startByte = some (utf16Length k.before) := by
    rw [line, List.append_assoc, startByte, Text.columnOfByte?_append]
  have hstop : Text.columnOfByte? k.line k.stopByte = some (utf16Length (k.before ++ k.content)) := by
    rw [line, stopByte, ← utf8Length_append, Text.columnOfByte?_append]
  rw [Span.ofBytes?, hstart, hstop, span, utf16Length_append]
  rfl

theorem stop_le_line (k : Token) : k.span.stop ≤ utf16Length k.line := by
  simp only [span, line, utf16Length_append]
  omega

/-- **The range of a token addresses it** in the text that its line is a piece of. -/
theorem addresses_onLine {k : Token} (hne : k.content ≠ []) {before after : Text} {n : Nat}
    (hoffset : ∀ a b, k.line = a ++ b →
      (before ++ k.line ++ after).offsetOf? ⟨n, utf16Length a⟩ = some (utf8Length (before ++ a))) :
    (k.span.onLine n).Addresses (before ++ k.line ++ after) n (utf8Length (before ++ k.before))
      (utf8Length (before ++ (k.before ++ k.content))) k.content where
  start_line := rfl
  stop_line := rfl
  start_lt_stop := by
    have hpos := Text.utf16Length_pos hne
    simp only [Span.onLine, span]
    omega
  offset_start := by
    refine hoffset k.before (k.content ++ k.after) ?_
    rw [line, List.append_assoc]
  offset_stop := by
    have hstop := hoffset (k.before ++ k.content) k.after rfl
    rwa [utf16Length_append] at hstop
  slice_eq := by
    have htext : before ++ k.line ++ after =
        before ++ k.before ++ k.content ++ (k.after ++ after) := by
      simp [line]
    rw [htext, ← List.append_assoc before, Text.slice?_append]

/-- A token that a scan finds is a piece of the line. -/
theorem line_eq_of_mem_scan {recognise : Recogniser} (hsound : recognise.Sound) {k : Token}
    {line : Text} (h : k ∈ scan recognise line) : k.line = line := by
  obtain ⟨front, e, back, rfl, -, rfl⟩ := mem_scan hsound h
  exact e.line_inside front back

end Token

/-- The byte of a character that has only one, at the place where the character stands. -/
theorem Utf8.getElem?_encode_append {c : Char} {byte : UInt8} (hc : encode [c] = [byte])
    (a b : Text) : (encode (a ++ c :: b))[utf8Length a]? = some byte := by
  rw [← List.singleton_append, encode_append, encode_append, hc, ← length_encode,
    List.getElem?_append_right (Nat.le_refl _), Nat.sub_self]
  rfl

theorem Script.IsQuote.exists_byte {quote : Char} (h : IsQuote quote) :
    ∃ byte, (byte = 0x27 ∨ byte = 0x22) ∧ Utf8.encode [quote] = [byte] := by
  rcases h with rfl | rfl
  · exact ⟨0x27, Or.inl rfl, by decide⟩
  · exact ⟨0x22, Or.inr rfl, by decide⟩

/-- A script string of a line stands between two equal quotes. -/
theorem Script.exists_quotes_of_mem {line : Text} {k : Token} (h : k ∈ tokens line) :
    ∃ front name quote back, IsQuote quote ∧ name ≠ [] ∧
      k = Enclosed.inside ⟨[quote], name, [quote]⟩ front back := by
  obtain ⟨front, e, back, -, hsome, rfl⟩ := Token.mem_scan recognise_sound h
  obtain ⟨quote, -, hquote, heq, hname, -⟩ := recognise_eq_some hsome
  obtain ⟨stem, ending, -, hstem, hcontent⟩ := isName_iff.1 hname
  refine ⟨front, e.content, quote, back, hquote, ?_, congrArg (Enclosed.inside · front back) heq⟩
  rw [hcontent]
  exact List.append_ne_nil_of_left_ne_nil hstem ending

/-- **A script string stands between the bytes of its quotes**, wherever its line stands. -/
theorem Script.getElem?_quotes {quote : Char} {byte : UInt8} (h : Utf8.encode [quote] = [byte])
    (before front name back after : Text) :
    (Utf8.encode (before ++ (Enclosed.inside ⟨[quote], name, [quote]⟩ front back).line ++
        after))[utf8Length before + utf8Length front]? = some byte ∧
      (Utf8.encode (before ++ (Enclosed.inside ⟨[quote], name, [quote]⟩ front back).line ++
        after))[utf8Length (before ++ (front ++ [quote] ++ name))]? = some byte := by
  have hreads : before ++ (Enclosed.inside ⟨[quote], name, [quote]⟩ front back).line ++ after =
      before ++ front ++ quote :: (name ++ quote :: (back ++ after)) := by
    simp [Token.line, Enclosed.inside]
  have hreads' : before ++ front ++ quote :: (name ++ quote :: (back ++ after)) =
      before ++ (front ++ [quote] ++ name) ++ quote :: (back ++ after) := by
    simp
  rw [hreads]
  constructor
  · rw [← utf8Length_append]
    exact Utf8.getElem?_encode_append h _ _
  · rw [hreads']
    exact Utf8.getElem?_encode_append h _ _

/-- **The range of what is under a column addresses it**, on every line of every text. In the bytes
of the text a script string has the same quote right before and right behind it, and the first of
the two is where the token says. No token of the line is ever left out because its bytes had no
columns, and the columns of a token are columns of the line. -/
theorem Text.addresses_at? {t line : Text} {n : Nat} (hline : t.lineAt? n = some line)
    (column : Nat) :
    (∀ k, Include.at? line column = some k →
      ∃ first last, (k.span.onLine n).Addresses t n first last k.content) ∧
    (∀ k, Script.at? line column = some k →
      ∃ start last quote, (t.lineStarts)[n]? = some start ∧
        (k.span.onLine n).Addresses t n (start + Script.quoteByte k + 1) last k.content ∧
        (quote = 0x27 ∨ quote = 0x22) ∧
        (Utf8.encode t)[start + Script.quoteByte k]? = some quote ∧
        (Utf8.encode t)[last]? = some quote) ∧
    ∀ k, k ∈ Include.tokens line ∨ k ∈ Script.tokens line →
      Span.ofBytes? line k.startByte k.stopByte = some k.span ∧
        k.span.stop ≤ utf16Length line := by
  obtain ⟨before, after, rfl, hstart, hoffset⟩ := exists_around_of_lineAt? hline
  refine ⟨fun k hk => ?_, fun k hk => ?_, fun k hk => ?_⟩
  · have hmem : k ∈ Include.tokens line := List.mem_of_find?_eq_some hk
    obtain ⟨front, e, back, -, hsome, rfl⟩ := Token.mem_scan Include.recognise_sound hmem
    rw [← Token.line_eq_of_mem_scan Include.recognise_sound hmem] at hoffset ⊢
    exact ⟨_, _, Token.addresses_onLine (Include.recognise_eq_some hsome).2.1 hoffset⟩
  · have hmem : k ∈ Script.tokens line := List.mem_of_find?_eq_some hk
    have hsame := Token.line_eq_of_mem_scan Script.recognise_sound hmem
    obtain ⟨front, name, quote, back, hquote, hne, rfl⟩ := Script.exists_quotes_of_mem hmem
    obtain ⟨byte, hbyte, hencode⟩ := hquote.exists_byte
    obtain ⟨hopens, hcloses⟩ := Script.getElem?_quotes hencode before front name back after
    have hfirst : utf8Length (before ++ (front ++ [quote])) =
        utf8Length before + utf8Length front + 1 := by
      rw [utf8Length_append, utf8Length_append, ← Utf8.length_encode [quote], hencode]
      rfl
    rw [← hsame] at hstart hoffset ⊢
    rw [Script.quoteByte_inside hquote]
    refine ⟨_, _, byte, hstart, ?_, hbyte, hopens, hcloses⟩
    rw [← hfirst]
    exact Token.addresses_onLine hne hoffset
  · have hsame : k.line = line :=
      hk.elim (Token.line_eq_of_mem_scan Include.recognise_sound)
        (Token.line_eq_of_mem_scan Script.recognise_sound)
    rw [← hsame]
    exact ⟨k.ofBytes?_line, k.stop_le_line⟩

/-- An include and a script string on the second line of a text with wide characters before, inside
and between them, and with a carriage return in each terminator. -/
theorem Text.addresses_at?_wide :
    let t : Text := "é😀\r\n<!-- \x7b\x7b 😀/a.html \x7d\x7d --> '😀b.ts'\r\nx".toList
    let line : Text := "<!-- \x7b\x7b 😀/a.html \x7d\x7d --> '😀b.ts'".toList
    t.lineAt? 1 = some line ∧
      (∃ first last, Range.Addresses ⟨⟨1, 8⟩, ⟨1, 17⟩⟩ t 1 first last "😀/a.html".toList) ∧
      ∃ start last quote, (t.lineStarts)[1]? = some start ∧
        Range.Addresses ⟨⟨1, 26⟩, ⟨1, 32⟩⟩ t 1 (start + 27 + 1) last "😀b.ts".toList ∧
        (quote = 0x27 ∨ quote = 0x22) ∧ (Utf8.encode t)[start + 27]? = some quote ∧
        (Utf8.encode t)[last]? = some quote := by
  intro t line
  have hline : t.lineAt? 1 = some line := by decide +kernel
  have hpath : Include.at? line 17 = some ⟨line.take 8, "😀/a.html".toList, line.drop 16⟩ := by
    decide +kernel
  have hname : Script.at? line 32 = some ⟨line.take 25, "😀b.ts".toList, line.drop 30⟩ := by
    decide +kernel
  have hspan : Token.span ⟨line.take 8, "😀/a.html".toList, line.drop 16⟩ = ⟨8, 17⟩ := by
    decide +kernel
  have hspan' : Token.span ⟨line.take 25, "😀b.ts".toList, line.drop 30⟩ = ⟨26, 32⟩ := by
    decide +kernel
  have hquote : Script.quoteByte ⟨line.take 25, "😀b.ts".toList, line.drop 30⟩ = 27 := by
    decide +kernel
  have hincluded := (addresses_at? hline 17).1 _ hpath
  have hstring := (addresses_at? hline 32).2.1 _ hname
  rw [hspan] at hincluded
  rw [hspan', hquote] at hstring
  exact ⟨hline, hincluded, hstring⟩

end Signpost
