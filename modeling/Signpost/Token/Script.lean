import Signpost.Token.Pattern

/-!
# Script strings

A string that may name a worker script: a text between two equal quotes that ends in
`.ts`, `.js` or `.mjs` and has at least one character before that dot.

The string ends at the **next** quote of its kind; a backslash does not protect a
quote, and a line feed ends the search. A quote that opens nothing is passed by, and
the next one gets its chance – so in `'a' + './b.ts'` the quotes of `'a'` are tried
first, then the text from the second quote on, and the string found is `./b.ts`.
-/

namespace Signpost.Script

/-- The endings of a script name. -/
def endings : List Text := [['.', 't', 's'], ['.', 'j', 's'], ['.', 'm', 'j', 's']]

/-- A text that ends in one of `endings` and has something before it. -/
def isName (t : Text) : Bool :=
  endings.any fun ending => ending.length < t.length && ending.isSuffixOf t

/-- The pattern of a script string in quotes of one kind, `'([^'\n]+\.(?:ts|js|mjs))'` for
single ones. -/
def frame (quote : Char) : Frame where
  opening := .text [quote]
  content := .all [.several false (.other (.or (.just quote) (.just '\n'))), .text ['.'],
    .either (.text ['t', 's']) (.either (.text ['j', 's']) (.text ['m', 'j', 's']))]
  closing := .text [quote]

/-- The patterns of a script string: single quotes come first. -/
def frames : List Frame := [frame '\'', frame '"']

/-- The script string at the start of a text, which is the first way of `frames`. -/
def recognise : Recogniser
  | [] => none
  | quote :: t =>
    if quote = '\'' || quote = '"' then
      let name := t.takeWhile fun c => c != quote && c != '\n'
      match t.drop name.length with
      | c :: _ => if c = quote && isName name then some ⟨[quote], name, [quote]⟩ else none
      | [] => none
    else
      none

/-- The script strings of a line. -/
def tokens (line : Text) : List Token :=
  Token.scan recognise line

/-- The script string under a column of a line. -/
def at? (line : Text) (column : Nat) : Option Token :=
  Token.find? recognise line column

/-- The byte offset of the quote that opens a script string. -/
def quoteByte (k : Token) : Nat :=
  k.startByte - 1

end Signpost.Script
