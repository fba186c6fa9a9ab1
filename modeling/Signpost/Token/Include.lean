import Signpost.Text.Blank
import Signpost.Token.Pattern

/-!
# Partial includes

A page includes a partial by a comment that holds a path in double braces,

    <!-- {{ ./nav.html }} -->

with white space allowed, and nothing required, between any two of the five
delimiters and around the path.

The path is the **shortest** text behind the opening braces and their white space that
a closing part follows. It is never empty, it does not run across a line feed, and
it carries no white space at its end, because a closing part may start with some.

One reading remains when the braces hold white space only. There is no path behind
that white space, so the last of it is taken for the path: `{{ }}` includes a file
whose name is a blank. Such a name has no extension, hence no such include ever
leads anywhere, but the token is there.

All this is what `frame` says: the white space is as long as possible, the path as short
as possible, and where they compete the white space gives way. `recognise` comes to the
first way of the frame without trying the others.
-/

namespace Signpost.Include

/-- What opens a comment. -/
def commentStart : Text := ['<', '!', '-', '-']

/-- What closes a comment. -/
def commentStop : Text := ['-', '-', '>']

/-- What opens the path. -/
def braces : Text := ['{', '{']

/-- What closes the path. -/
def closingBraces : Text := ['}', '}']

/-- The pattern of an include, `<!--\s*\{\{\s*(.+?)\s*\}\}\s*-->`. -/
def frame : Frame where
  opening := .all [.text commentStart, .blanks, .text braces, .blanks]
  content := .several true (.other (.just '\n'))
  closing := .all [.blanks, .text closingBraces, .blanks, .text commentStop]

/-! ### Reading -/

/-- The opening part at the start of a text, without the white space behind the
braces, and what follows it. -/
def opening? (t : Text) : Option (Text × Text) := do
  let u ← Text.skip? commentStart t
  let v ← Text.skip? braces u.trimStart
  return (commentStart ++ u.takeWhile Text.isBlank ++ braces, v)

/-- The closing part at the start of a text, white space before the braces
included. -/
def closing? (t : Text) : Option Text := do
  let u ← Text.skip? closingBraces t.trimStart
  let _ ← Text.skip? commentStop u.trimStart
  return t.takeWhile Text.isBlank ++ closingBraces ++ u.takeWhile Text.isBlank ++ commentStop

/-- The shortest path at the start of a text, with the closing part that follows
it. -/
def path? : Text → Option (Text × Text)
  | [] => none
  | c :: t =>
    if c = '\n' then none
    else match closing? t with
      | some closing => some ([c], closing)
      | none => (path? t).map fun (path, closing) => (c :: path, closing)

/-- The reading of braces that hold white space only: the last character of it that
is not a line feed is the path. The first part is what stands before it. -/
def blankPath? (blanks : Text) : Option (Text × Text × Text) :=
  match blanks.reverse.dropWhile (· = '\n') with
  | [] => none
  | c :: before => some (before.reverse, [c], blanks.drop (before.length + 1))

/-- The include at the start of a text. -/
def recognise : Recogniser := fun t => do
  let (opening, u) ← opening? t
  let blanks := u.takeWhile Text.isBlank
  let body := u.trimStart
  match path? body with
  | some (path, closing) => return ⟨opening ++ blanks, path, closing⟩
  | none =>
    let closing ← closing? body
    let (before, path, behind) ← blankPath? blanks
    return ⟨opening ++ before, path, behind ++ closing⟩

/-- The includes of a line. -/
def tokens (line : Text) : List Token :=
  Token.scan recognise line

/-- The path of the include under a column of a line. -/
def at? (line : Text) (column : Nat) : Option Token :=
  Token.find? recognise line column

/-! ### Words

An editor that selects words by a pattern is told to select a whole path, as long as
it is a single name with at most one step in front of it. -/

/-- The pattern for the words of a page that editors are told to use. -/
def wordPattern : String :=
  "(?<=<!--\\s*\x7b\x7b\\s*)(\\.?\\.?\\/)?[a-zA-Z0-9._-]+?(?=\\s*\x7d\x7d\\s*-->)"

/-- A character of a name, `[a-zA-Z0-9._-]`. -/
def isNameChar (c : Char) : Bool :=
  c.isAlphanum || c = '.' || c = '_' || c = '-'

/-- The pattern of such a path, `^(?:\.?\.?/)?[a-zA-Z0-9._-]+$`. -/
def wordForm : Pattern :=
  .all [.check .textStart,
    .optional (.all [.optional (.text ['.']), .optional (.text ['.']), .text ['/']]),
    .several false isNameChar, .check .textEnd]

/-- A path without the one step `/`, `./` or `../` in front of it. -/
def dropStep (path : Text) : Text :=
  match path with
  | '.' :: '.' :: '/' :: name => name
  | '.' :: '/' :: name => name
  | '/' :: name => name
  | name => name

/-- A path that is a single name with at most one step in front of it. -/
def isWord (path : Text) : Bool :=
  let name := dropStep path
  !name.isEmpty && name.all isNameChar

/-- The span of the include path under a column, if it is a word. -/
def wordAt? (line : Text) (column : Nat) : Option Span := do
  let k ← at? line column
  if isWord k.content then some k.span else none

end Signpost.Include
