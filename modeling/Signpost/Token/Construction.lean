import Signpost.Text.Blank
import Signpost.Text.Position
import Signpost.Text.WordChar
import Signpost.Token.Pattern

/-!
# Is this string the argument of a worker constructor?

A script string names a worker only as the first argument of a construction,

    new SharedWorker(
      './worker.ts',

and the keyword, the class and the parenthesis may each stand on a line of its own.
So the question is asked **backwards**: take the line up to the opening quote; if it
holds the keyword `new`, the text from its last occurrence on must be exactly a
construction; if it does not, it must at least be the tail of one, and then one more
line is put in front and the question is asked again.

The walk stops at a bound on the number of lines, and at the start of the enclosing
declaration where that is known. Stopping early on a text that is no tail loses
nothing, since no line in front of it can turn it into one.
-/

namespace Signpost.Construction

/-- The class of a worker that one page owns. -/
def worker : Text := ['W', 'o', 'r', 'k', 'e', 'r']

/-- The class of a worker that pages share. -/
def sharedWorker : Text := ['S', 'h', 'a', 'r', 'e', 'd'] ++ worker

/-! ### Patterns -/

/-- The pattern of the keyword, `\bnew\b`. -/
def keywordForm : Pattern :=
  .all [.check .boundary, .text ['n', 'e', 'w'], .check .boundary]

/-- The pattern of a worker class, `(?:Shared)?Worker`. -/
def classForm : Pattern :=
  .all [.optional (.text ['S', 'h', 'a', 'r', 'e', 'd']), .text worker]

/-- The pattern of a construction up to its argument,
`^new\s+(?:Shared)?Worker\s*\(\s*$`. -/
def wholeForm : Pattern :=
  .all [.check .textStart, .text ['n', 'e', 'w'], .several false Text.isBlank, classForm, .blanks,
    .text ['('], .blanks, .check .textEnd]

/-- The pattern of the tail of a construction,
`^\s*(?:(?:Shared)?Worker\s*)?(?:\(\s*)?$`. -/
def tailForm : Pattern :=
  .all [.check .textStart, .blanks, .optional (.all [classForm, .blanks]),
    .optional (.all [.text ['('], .blanks]), .check .textEnd]

/-! ### Reading -/

/-- What follows the name of a worker class at the start of a text. -/
def className? (t : Text) : Option Text :=
  (Text.skip? sharedWorker t).or (Text.skip? worker t)

/-- An opening parenthesis and white space, and nothing else. -/
def isOpening (t : Text) : Bool :=
  match t with
  | '(' :: rest => rest.all Text.isBlank
  | _ => false

/-- What may stand between the keyword `new` and the first argument: white space, a
worker class and an opening parenthesis. -/
def followsKeyword (t : Text) : Bool :=
  (t.head?.any Text.isBlank) &&
    match className? t.trimStart with
    | some rest => isOpening rest.trimStart
    | none => false

/-- The tail of a construction: white space, then the class and the parenthesis,
each of which may already be missing. -/
def isTail (t : Text) : Bool :=
  let u := t.trimStart
  let v := match className? u with
    | some rest => rest.trimStart
    | none => u
  v.isEmpty || isOpening v

/-- What follows the keyword `new`, if it stands alone at the start of a text that
comes right after the character `previous`. -/
def keyword? (previous : Option Char) (t : Text) : Option Text :=
  match t with
  | 'n' :: 'e' :: 'w' :: rest =>
    if previous.any Text.isWordChar || rest.head?.any Text.isWordChar then none else some rest
  | _ => none

/-- What follows the last keyword `new` of a text that comes right after the
character `previous`. -/
def lastKeyword? (previous : Option Char) : Text → Option Text
  | [] => none
  | c :: t => (lastKeyword? (some c) t).or (keyword? previous (c :: t))

/-- The walk: `search` is the text from the start of line `index` to the quote, and
at most `budget` more lines may be put in front of it. -/
def walk (line : Nat → Option Text) (index : Nat) : Nat → Text → Bool
  | budget, search =>
    match lastKeyword? none search with
    | some rest => followsKeyword rest
    | none =>
      if isTail search then
        match budget with
        | 0 => false
        | budget + 1 =>
          match line (index - 1) with
          | none => false
          | some previous => walk line (index - 1) budget (previous ++ '\n' :: search)
      else
        false

/-- The first line that the walk from line `index` may look at: at most `limit` lines
up, and not above the line where the enclosing declaration starts. -/
def lowest (index limit : Nat) (declaration : Option Range) : Nat :=
  let start := match declaration with
    | some range => if range.start.line ≤ index then range.start.line else 0
    | none => 0
  max start (index - limit)

/-- Whether the quote at a byte offset of line `index` opens the first argument of a
worker construction. -/
def verify (line : Nat → Option Text) (index quote limit : Nat) (declaration : Option Range) :
    Bool :=
  match (line index).bind fun t => t.splitBytes? quote with
  | none => false
  | some (search, _) => walk line index (index - lowest index limit declaration) search

end Signpost.Construction
