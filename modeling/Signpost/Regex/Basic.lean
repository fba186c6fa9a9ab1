import Signpost.Text.Blank
import Signpost.Text.WordChar

/-!
# Regular expressions

A log can be narrowed to the records whose message matches a regular expression, wherever
in the message that is. Only whether there is a match counts, not which one, so a matcher
has no choices to make: from a **set of places** in a text it computes the set of places
that an expression leads to from there. Repetition is the closure of such a step, and since
a text of length `n` has only `n + 1` places, `n + 1` steps reach everything.
-/

namespace Signpost

/-- A condition on a place between two characters. -/
inductive Anchor where
  /-- The start of the text. -/
  | textStart
  /-- The end of the text. -/
  | textEnd
  /-- The start of a line. -/
  | lineStart
  /-- The end of a line. -/
  | lineEnd
  /-- A word starts or ends. -/
  | boundary
  /-- No word starts or ends. -/
  | noBoundary
  /-- A word starts. -/
  | wordStart
  /-- A word ends. -/
  | wordEnd
  /-- No word character stands before. -/
  | wordStartHalf
  /-- No word character follows. -/
  | wordEndHalf
deriving DecidableEq, Repr

namespace Anchor

/-- Whether a condition holds at a place, given what counts as a word character. -/
def holds (isWord : Char → Bool) (t : Array Char) (place : Nat) : Anchor → Bool
  | textStart => place = 0
  | textEnd => place = t.size
  | lineStart => before (· = '\n') || place = 0
  | lineEnd => after (· = '\n') || place = t.size
  | boundary => before isWord != after isWord
  | noBoundary => before isWord == after isWord
  | wordStart => !before isWord && after isWord
  | wordEnd => before isWord && !after isWord
  | wordStartHalf => !before isWord
  | wordEndHalf => !after isWord
where
  /-- Whether the character before the place is of a kind. -/
  before (kind : Char → Bool) : Bool := 0 < place && t[place - 1]?.any kind
  /-- Whether the character behind the place is of a kind. -/
  after (kind : Char → Bool) : Bool := t[place]?.any kind

end Anchor

/-- A regular expression. -/
inductive Regex where
  /-- The empty text. -/
  | nothing
  /-- One character of a kind. -/
  | one (kind : Char → Bool)
  /-- A condition on the place, given what counts as a word character. -/
  | check (isWord : Char → Bool) (anchor : Anchor)
  /-- One after the other. -/
  | seq (first second : Regex)
  /-- Either of two. -/
  | either (first second : Regex)
  /-- Repeated at least so often, and at most so often if that is limited. -/
  | times (least : Nat) (most : Option Nat) (body : Regex)

namespace Regex

/-- The places of one list and those of another, each of them once. -/
def join (places more : List Nat) : List Nat :=
  places ++ more.filter fun place => !places.contains place

/-- Takes a step so many times. -/
def walk (step : List Nat → List Nat) : Nat → List Nat → List Nat
  | 0, places => places
  | n + 1, places => walk step n (step places)

/-- The places that at most so many steps reach from the newest of the places that are
known. -/
def spread (step : List Nat → List Nat) : Nat → List Nat → List Nat → List Nat
  | 0, known, _ => known
  | n + 1, known, newest =>
    match (step newest).filter fun place => !known.contains place with
    | [] => known
    | found => spread step n (known ++ found) found

/-- The places of a text that an expression leads to from any of the given ones. -/
def ends (t : Array Char) : Regex → List Nat → List Nat
  | nothing, places => places
  | one kind, places => (places.filter fun place => t[place]?.any kind).map (· + 1)
  | check isWord anchor, places => places.filter fun place => anchor.holds isWord t place
  | seq first second, places => second.ends t (first.ends t places)
  | either first second, places => join (first.ends t places) (second.ends t places)
  | times least most body, places =>
    let step := fun places => body.ends t places
    -- more rounds than there are places change nothing
    let start := walk step (min least (t.size + 1)) places
    let rounds := match most with
      | none => t.size + 1
      | some most => min (most - least) (t.size + 1)
    spread step rounds start start

/-- Whether an expression matches anywhere in a text. -/
def isMatch (regex : Regex) (t : Text) : Bool :=
  !(regex.ends t.toArray (List.range (t.length + 1))).isEmpty

/-! ### Building expressions -/

/-- One after the other, all of a list. -/
def all : List Regex → Regex
  | [] => nothing
  | [r] => r
  | r :: rest => seq r (all rest)

/-- Any of a list, of which there is a first. -/
def any (r : Regex) : List Regex → Regex
  | [] => r
  | next :: rest => either r (any next rest)

end Regex

end Signpost
