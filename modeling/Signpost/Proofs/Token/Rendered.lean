import Signpost.Proofs.Token.Grammar

/-!
# A line of includes is read back

A line is written from any number of includes, with any white space inside of them and any text
around them, as long as no comment starts in that text (`Signpost.Include.Rendered`). Reading it
gives the paths back, each under its own columns and under no others
(`Signpost.Include.at?_rendered`).

What has to be shown is that the scan is in step with the writing
(`Signpost.Include.mem_scanFrom_pieces`). It is refused everywhere in the text before an include:
an include starts with `<!--`, and where the text breaks off, the next character is a `<`, which
completes no comment start. And it takes an include as a whole, for its path holds no brace, so
nothing can be closed before its own end. A path may well hold a comment start.
-/

namespace Signpost.Include

/-! ### Writing -/

/-- **An include as it may be written**: a path, and white space in the four places where there may
be some. -/
structure Written where
  /-- The path. -/
  path : Text
  /-- White space behind `<!--`. -/
  beforeBraces : Text
  /-- White space behind the opening braces. -/
  beforePath : Text
  /-- White space behind the path. -/
  behindPath : Text
  /-- White space behind the closing braces. -/
  behindBraces : Text
  isWritable : IsWritable path
  blank_beforeBraces : Text.Blank beforeBraces
  blank_beforePath : Text.Blank beforePath
  blank_behindPath : Text.Blank behindPath
  blank_behindBraces : Text.Blank behindBraces

/-- The include between its delimiters. -/
def Written.enclosed (w : Written) : Enclosed :=
  { opening := commentStart ++ w.beforeBraces ++ braces ++ w.beforePath
    content := w.path
    closing := w.behindPath ++ closingBraces ++ w.behindBraces ++ commentStop }

/-- A text in which no comment starts, and an include behind it. -/
structure Piece where
  /-- The text before the include. -/
  plain : Text
  /-- The include. -/
  written : Written
  isPlain : ¬ commentStart <:+: plain

/-- What is written for a piece. -/
def Piece.text (piece : Piece) : Text :=
  piece.plain ++ piece.written.enclosed.text

/-- The columns of the path of a piece that is written behind others. -/
def Piece.spanBehind (piece : Piece) (earlier : List Piece) : Span :=
  let start := utf16Length
    (earlier.flatMap Piece.text ++ piece.plain ++ piece.written.enclosed.opening)
  ⟨start, start + utf16Length piece.written.path⟩

/-- **A line of includes**: pieces, and a last text in which no comment starts. -/
structure Rendered where
  /-- The includes, each with the text before it. -/
  pieces : List Piece
  /-- The text behind the last include. -/
  last : Text
  isPlain : ¬ commentStart <:+: last

/-- What is written for a line of includes. -/
def Rendered.line (r : Rendered) : Text :=
  r.pieces.flatMap Piece.text ++ r.last

/-! ### Reading -/

/-- **An include that is written is read**, whatever follows it. -/
theorem Written.recognise_eq (w : Written) (back : Text) :
    recognise (w.enclosed.text ++ back) = some w.enclosed := by
  have hclosing := closing?_written w.blank_behindPath w.blank_behindBraces back
  have hread := recognise_written w.blank_beforeBraces w.blank_beforePath w.isWritable hclosing
  simpa [enclosed, Enclosed.text] using hread

theorem Written.exists_cons (w : Written) (back : Text) :
    ∃ t, w.enclosed.text ++ back = '<' :: t := by
  simp [enclosed, Enclosed.text, commentStart]

/-- Nothing is opened where no comment starts. -/
theorem opening?_of_plain {t : Text} (h : ¬ commentStart <:+: t) : opening? t = none := by
  rcases hopening : opening? t with _ | ⟨opening, u⟩
  · rfl
  obtain ⟨ht, blanks, -, rfl⟩ := opening?_eq_some hopening
  exact absurd ⟨[], blanks ++ braces ++ u, by simp [ht]⟩ h

/-- **The scan is refused in a text in which no comment starts**, at the end of a line and before
a `<`. -/
theorem recognise_of_plain {plain rest : Text} (hplain : ¬ commentStart <:+: plain)
    (hrest : rest = [] ∨ ∃ t, rest = '<' :: t) (a : Text) (c : Char) (b : Text)
    (h : plain = a ++ c :: b) : recognise (c :: b ++ rest) = none := by
  have hnone : opening? (c :: b) = none := by
    refine opening?_of_plain fun hinfix => hplain ?_
    rw [h]
    exact hinfix.trans (List.suffix_append a (c :: b)).isInfix
  rcases hrest with rfl | ⟨t, rfl⟩
  · rw [List.append_nil, recognise, hnone]
    rfl
  · rw [recognise, opening?_append (List.cons_ne_nil c b), hnone]
    rfl

/-- **One step**: the scan passes a piece and finds its include. -/
theorem scanFrom_piece (piece : Piece) (back seen : Text) :
    Token.scanFrom recognise 0 seen (piece.text ++ back) =
      piece.written.enclosed.inside (seen.reverse ++ piece.plain) back ::
        Token.scanFrom recognise 0 (piece.text.reverse ++ seen) back := by
  have hread := piece.written.recognise_eq back
  have hrefused := recognise_of_plain piece.isPlain (Or.inr (piece.written.exists_cons back))
  rw [Piece.text, List.append_assoc, Token.scanFrom_append_of_refused hrefused,
    Token.scanFrom_of_match (recognise_delimited.text_ne_nil hread) hread]
  simp

/-- **The scan is in step with the writing**: it finds the includes of the pieces, each behind the
pieces before it. -/
theorem mem_scanFrom_pieces {last : Text} (hlast : ¬ commentStart <:+: last) {k : Token}
    (pieces : List Piece) (seen : Text) :
    k ∈ Token.scanFrom recognise 0 seen (pieces.flatMap Piece.text ++ last) ↔
      ∃ earlier piece later, pieces = earlier ++ piece :: later ∧
        k = piece.written.enclosed.inside
          (seen.reverse ++ (earlier.flatMap Piece.text ++ piece.plain))
          (later.flatMap Piece.text ++ last) := by
  induction pieces generalizing seen with
  | nil =>
    have hscan := Token.scanFrom_append_of_refused (recognise_of_plain hlast (Or.inl rfl)) seen
    rw [List.append_nil] at hscan
    rw [List.flatMap_nil, List.nil_append, hscan, Token.scanFrom]
    simp
  | cons piece pieces ih =>
    rw [List.flatMap_cons, List.append_assoc, scanFrom_piece, List.mem_cons, ih]
    constructor
    · rintro (rfl | ⟨earlier, piece', later, rfl, rfl⟩)
      · exact ⟨[], piece, pieces, rfl, by simp⟩
      · exact ⟨piece :: earlier, piece', later, rfl, by simp⟩
    · rintro ⟨earlier, piece', later, hsplit, rfl⟩
      rcases List.cons_eq_append_iff.1 hsplit with ⟨rfl, heq⟩ | ⟨earlier', rfl, rfl⟩
      · obtain ⟨rfl, rfl⟩ := List.cons.inj heq
        exact Or.inl (by simp)
      · exact Or.inr ⟨earlier', piece', later, rfl, by simp⟩

/-- The includes of a line that was written. -/
theorem at?_line_eq_some_iff (r : Rendered) {k : Token} {column : Nat} :
    at? r.line column = some k ↔ ∃ earlier piece later, r.pieces = earlier ++ piece :: later ∧
      (piece.spanBehind earlier).Covers column ∧ k = piece.written.enclosed.inside
        (earlier.flatMap Piece.text ++ piece.plain) (later.flatMap Piece.text ++ r.last) := by
  rw [at?, Token.find?_eq_some_iff_mem recognise_sound recognise_delimited, Token.scan,
    Rendered.line, mem_scanFrom_pieces r.isPlain]
  constructor
  · rintro ⟨⟨earlier, piece, later, hsplit, rfl⟩, hcovers⟩
    exact ⟨earlier, piece, later, hsplit, hcovers, rfl⟩
  · rintro ⟨earlier, piece, later, hsplit, hcovers, rfl⟩
    exact ⟨⟨earlier, piece, later, hsplit, rfl⟩, hcovers⟩

/-- **A line of includes is read back.** Under every column of a path, from its first to one past
its last, stands that path with just these columns as its range; and under every other column there
is nothing. -/
theorem at?_rendered (r : Rendered) (row column : Nat) :
    (∀ earlier piece later, r.pieces = earlier ++ piece :: later →
      (piece.spanBehind earlier).Covers column →
        ∃ k, at? r.line column = some k ∧ k.content = piece.written.path ∧
          k.span.onLine row = (piece.spanBehind earlier).onLine row) ∧
    ((∀ earlier piece later, r.pieces = earlier ++ piece :: later →
      ¬ (piece.spanBehind earlier).Covers column) → at? r.line column = none) := by
  constructor
  · intro earlier piece later hsplit hcovers
    exact ⟨_, (at?_line_eq_some_iff r).2 ⟨earlier, piece, later, hsplit, hcovers, rfl⟩, rfl, rfl⟩
  · intro hnone
    rcases hk : at? r.line column with _ | k
    · rfl
    obtain ⟨earlier, piece, later, hsplit, hcovers, -⟩ := (at?_line_eq_some_iff r).1 hk
    exact absurd hcovers (hnone earlier piece later hsplit)

/-- Two includes, the first of which holds what looks like the start of another one, with a broken
comment start in between. -/
theorem at?_rendered_two :
    let first : Written := ⟨"a <!-- \x7b\x7b 😀".toList, [], "\t".toList, " ".toList, [],
      ⟨by decide, by decide, by decide, by decide, by decide⟩, by decide, by decide, by decide,
      by decide⟩
    let second : Written := ⟨"é.html".toList, " ".toList, "\u3000".toList, [], "\t ".toList,
      ⟨by decide, by decide, by decide, by decide, by decide⟩, by decide, by decide, by decide,
      by decide⟩
    let piece : Piece := ⟨"<p>".toList, first, by decide⟩
    let piece' : Piece := ⟨" <!-".toList, second, by decide⟩
    let r : Rendered := ⟨[piece, piece'], "</p>".toList, by decide⟩
    (∃ k, at? r.line 46 = some k ∧ k.content = second.path ∧
        k.span.onLine 1 = ⟨⟨1, 40⟩, ⟨1, 46⟩⟩) ∧
      at? r.line 0 = none := by
  intro first second piece piece' r
  have hspan : piece'.spanBehind [piece] = ⟨40, 46⟩ := by decide +kernel
  constructor
  · obtain ⟨k, hk, hcontent, hrange⟩ := (at?_rendered r 1 46).1 [piece] piece' [] rfl
      (by rw [hspan]; decide)
    rw [hspan] at hrange
    exact ⟨k, hk, hcontent, hrange⟩
  · refine (at?_rendered r 1 0).2 fun earlier piece later _ hcovers => ?_
    simp [Span.Covers, Piece.spanBehind, Written.enclosed, commentStart, utf16Size] at hcovers

end Signpost.Include
