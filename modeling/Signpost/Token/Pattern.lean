import Signpost.Regex.Basic
import Signpost.Regex.Kind
import Signpost.Token.Basic

/-!
# Patterns

What a reference looks like is written down as a pattern. A pattern can match in several
ways, and they are tried in an order: of two alternatives the first comes first; of a
repetition, one round more comes before one round less, and if it is lazy the other way
round. **What counts is the first way** at the leftmost place where there is one.

`Pattern.ways` lists the ways in this order. It tells what a pattern means and is not
meant to be run: whoever looks for includes, script strings or constructions goes for the
first way at once, and has the pattern beside it.
-/

namespace Signpost

/-- A pattern. What is repeated is a single character. -/
inductive Pattern where
  /-- A fixed text. -/
  | text (t : Text)
  /-- One character of a kind. -/
  | one (kind : Regex.Kind)
  /-- Any number of characters of a kind, as many as possible or, if it is lazy, as few. -/
  | many (isLazy : Bool) (kind : Regex.Kind)
  /-- A condition on the place. -/
  | check (anchor : Anchor)
  /-- One after the other. -/
  | seq (first second : Pattern)
  /-- Either of two, and rather the first. -/
  | either (first second : Pattern)

namespace Pattern

/-! ### Building patterns -/

/-- All of a list, one after the other. -/
def all : List Pattern → Pattern
  | [] => text []
  | p :: rest => seq p (all rest)

/-- A pattern or nothing, and rather the pattern. -/
def optional (p : Pattern) : Pattern :=
  either p (text [])

/-- At least one character of a kind. -/
def several (isLazy : Bool) (kind : Regex.Kind) : Pattern :=
  seq (one kind) (many isLazy kind)

/-- Any white space, as much as possible. -/
def blanks : Pattern :=
  many false Text.isBlank

/-! ### Ways to match -/

/-- The ways to read characters of a kind at the start of a text, each as what is read. -/
def runs (isLazy : Bool) (kind : Regex.Kind) : Text → List Text
  | [] => [[]]
  | c :: t =>
    if kind c then
      let more := (runs isLazy kind t).map (c :: ·)
      if isLazy then [] :: more else more ++ [[]]
    else [[]]

/-- The ways in which a pattern matches between what stands before a place and what stands
behind it, each as the text that it reads. -/
def ways : Pattern → Text → Text → List Text
  | text t, _, after => if t.isPrefixOf after then [t] else []
  | one _, _, [] => []
  | one kind, _, c :: _ => if kind c then [[c]] else []
  | many isLazy kind, _, after => runs isLazy kind after
  | check anchor, before, after =>
    if anchor.holds Text.isWordChar (before ++ after).toArray before.length then [[]] else []
  | seq first second, before, after =>
    (first.ways before after).flatMap fun t =>
      (second.ways (before ++ t) (after.drop t.length)).map (t ++ ·)
  | either first second, before, after => first.ways before after ++ second.ways before after

/-- What a pattern matches at a place. -/
def first? (p : Pattern) (before after : Text) : Option Text :=
  (p.ways before after).head?

/-- Whether a pattern matches anywhere in a text. -/
def isMatch (p : Pattern) (t : Text) : Bool :=
  (List.range (t.length + 1)).any fun n => (p.first? (t.take n) (t.drop n)).isSome

end Pattern

/-- The pattern of a token with its delimiters. -/
structure Frame where
  /-- What opens the token. -/
  opening : Pattern
  /-- The token. -/
  content : Pattern
  /-- What closes the token. -/
  closing : Pattern

namespace Frame

/-- The ways in which a frame matches at a place. -/
def ways (f : Frame) (before after : Text) : List Enclosed :=
  (f.opening.ways before after).flatMap fun opening =>
    (f.content.ways (before ++ opening) (after.drop opening.length)).flatMap fun content =>
      (f.closing.ways (before ++ opening ++ content)
        ((after.drop opening.length).drop content.length)).map fun closing =>
          ⟨opening, content, closing⟩

/-- What the first of some frames that matches at a place matches there. -/
def first? (frames : List Frame) (before after : Text) : Option Enclosed :=
  (frames.flatMap fun f => f.ways before after).head?

/-- The matches from the middle of a text: `before` is what has been passed, and the next
`skip` characters belong to the last match. -/
def scanFrom (frames : List Frame) : Nat → Text → Text → List Token
  | _, _, [] => []
  | skip + 1, before, c :: after => scanFrom frames skip (before ++ [c]) after
  | 0, before, c :: after =>
    match first? frames before (c :: after) with
    | none => scanFrom frames 0 (before ++ [c]) after
    | some e =>
      ⟨before ++ e.opening, e.content, (c :: after).drop (e.opening.length + e.content.length)⟩
        :: scanFrom frames (e.width - 1) (before ++ [c]) after

/-- The matches of some frames in a text, from left to right and without overlap. None of
them may match the empty text. -/
def scan (frames : List Frame) (t : Text) : List Token :=
  scanFrom frames 0 [] t

/-- A pattern without delimiters. -/
def bare (p : Pattern) : Frame :=
  ⟨.text [], p, .text []⟩

end Frame

end Signpost
