import Signpost.Text.Basic

/-!
# Faults of TOML documents

A document with a fault is no document. A fault has a cause and the part of the text where
it shows, and it is told with the line that this part is on and marks below it.

Places in a text are counted in characters here. What is told about them is the number of
the line, the column, and as many marks as the part has bytes on its line; all of that is
computed only when a fault is told.
-/

namespace Signpost.Toml

/-- A part of a text, from one place up to another. -/
structure Extent where
  /-- Where it starts. -/
  start : Nat
  /-- Where it stops. -/
  stop : Nat
deriving DecidableEq, Repr

/-- The empty part of a text at a place. -/
def Extent.at (place : Nat) : Extent := ⟨place, place⟩

/-- Why a text is no document, or not the one that is wanted. -/
inductive Cause where
  /-- A key without an equals sign. -/
  | keyAlone
  /-- A closing bracket at the start of a line. -/
  | noTableOpen
  /-- The header of a table is not closed. -/
  | tableUnclosed
  /-- The header of an item is not closed by the given brackets. -/
  | itemUnclosed (wanted : String)
  /-- A line starts with something that is no key. -/
  | noKey
  /-- Something follows a value or a header on its line. -/
  | trailing
  /-- A second equals sign. -/
  | extraEquals
  /-- A brace is closed that was not opened. -/
  | noBrace
  /-- A bracket is closed that was not opened. -/
  | noBracket
  /-- An array is not closed. -/
  | arrayUnclosed
  /-- A comma of an array that no value precedes. -/
  | arrayComma
  /-- Two values of an array without a comma between them. -/
  | arrayNoComma
  /-- An equals sign in an array. -/
  | arrayEquals
  /-- An inline table is not closed. -/
  | inlineUnclosed
  /-- A comma of an inline table where something else is wanted. -/
  | inlineComma (wanted : String)
  /-- An equals sign of an inline table where something else is wanted. -/
  | inlineEquals (wanted : String)
  /-- A member of an inline table without a key. -/
  | inlineNoKey
  /-- A member of an inline table without an equals sign. -/
  | inlineNoEquals
  /-- Two members of an inline table without a comma between them. -/
  | inlineNoComma
  /-- Values nest too deep. -/
  | tooDeep
  /-- A control character in a comment. -/
  | comment
  /-- A carriage return without a line feed. -/
  | carriageReturn
  /-- A key without quotes and without characters. -/
  | keyEmpty
  /-- A key without quotes that has other characters than it may. -/
  | keyInvalid
  /-- A key of several lines, of the given kind. -/
  | keyMultiline (kind : String)
  /-- A dotted key with too many parts. -/
  | keyTooLong
  /-- A string of the given kind that is not as it should be. -/
  | string (kind wanted : String)
  /-- There is no such escape. -/
  | escape
  /-- An escape with too few digits. -/
  | escapeShort
  /-- An escape of no character. -/
  | escapeInvalid
  /-- A value that nothing but a string could be. -/
  | unquoted
  /-- A word that should be another one. -/
  | word (kind wanted : String)
  /-- A zero in front of other digits. -/
  | leadingZero
  /-- An underscore that does not stand between digits. -/
  | underscore
  /-- A second sign. -/
  | extraSign
  /-- A sign in front of a number that is not decimal. -/
  | radixSign
  /-- The mark of a number that is not decimal in upper case. -/
  | radixCase (wanted : String)
  /-- A number of a kind with digits of another one. -/
  | digit (kind : String)
  /-- A part of a number that has no digits. -/
  | noDigits (part : String)
  /-- A number with a fraction or an exponent that something follows. -/
  | float
  /-- No date and no time. -/
  | moment
  /-- A key is defined twice. -/
  | duplicate
  /-- A dotted key goes through something that is no table. -/
  | notTable (kind : String)
  /-- A whole number that is too great. -/
  | integerOverflow
  /-- A number with a fraction or an exponent that is too great. -/
  | floatOverflow
  /-- A value of one kind where another kind is wanted. -/
  | mismatch (found wanted : String)
  /-- A whole number that does not fit. -/
  | range (n : Int) (wanted : String)
deriving DecidableEq, Repr

/-- The wording of a cause. -/
def Cause.message : Cause → String
  | keyAlone => "key with no value, expected `=`"
  | noTableOpen => "missing table open, expected `[`"
  | tableUnclosed => "unclosed table, expected `]`"
  | itemUnclosed wanted => "unclosed array table, expected `" ++ wanted ++ "`"
  | noKey => "invalid key, expected key"
  | trailing => "unexpected key or value, expected newline, `#`"
  | extraEquals => "extra `=`, expected nothing"
  | noBrace => "missing inline table opening, expected `\x7b`"
  | noBracket => "missing array opening, expected `[`"
  | arrayUnclosed => "unclosed array, expected `]`"
  | arrayComma => "extra comma in array, expected value"
  | arrayNoComma => "missing comma between array elements, expected `,`"
  | arrayEquals => "unexpected `=` in array, expected value, `]`"
  | inlineUnclosed => "unclosed inline table, expected `\x7d`"
  | inlineComma wanted => "extra comma in inline table, expected " ++ wanted ++ ", `\x7d`"
  | inlineEquals wanted =>
    "extra assignment between key-value pairs, expected " ++ wanted ++ ", `\x7d`"
  | inlineNoKey => "missing key for inline table element, expected key"
  | inlineNoEquals => "missing assignment between key-value pairs, expected `=`"
  | inlineNoComma => "missing comma between key-value pairs, expected `,`"
  | tooDeep => "cannot recurse further; max recursion depth met"
  | comment => "invalid comment character, expected printable characters"
  | carriageReturn => "carriage return must be followed by newline, expected newline"
  | keyEmpty => "unquoted keys cannot be empty, expected letters, numbers, `-`, `_`"
  | keyInvalid => "invalid unquoted key, expected letters, numbers, `-`, `_`"
  | keyMultiline kind =>
    "keys cannot be " ++ kind ++ "s, expected basic string, literal string"
  | keyTooLong => "recursion limit"
  | string kind wanted => "invalid " ++ kind ++ ", expected " ++ wanted
  | escape =>
    "missing escaped value, expected `b`, `e`, `f`, `n`, `r`, `\\`, `\"`, `x`, `u`, `U`"
  | escapeShort => "too few unicode value digits, expected unicode hexadecimal value"
  | escapeInvalid => "invalid value, expected unicode hexadecimal value"
  | unquoted => "string values must be quoted, expected literal string"
  | word kind wanted => "invalid " ++ kind ++ ", expected `" ++ wanted ++ "`"
  | leadingZero => "unexpected leading zero, expected nothing"
  | underscore => "`_` may only go between digits, expected nothing"
  | extraSign => "redundant numeric sign, expected nothing"
  | radixSign => "integers with a radix cannot be signed, expected nothing"
  | radixCase wanted => "radix must be lowercase, expected `" ++ wanted ++ "`"
  | digit kind => "invalid " ++ kind ++ " number, expected nothing"
  | noDigits part => "invalid " ++ part ++ ", expected digits"
  | float => "invalid float, expected nothing"
  | moment => "invalid datetime"
  | duplicate => "duplicate key"
  | notTable kind => "cannot extend value of type " ++ kind ++ " with a dotted key"
  | integerOverflow => "integer number overflowed"
  | floatOverflow => "floating-point number overflowed"
  | mismatch found wanted => "invalid type: " ++ found ++ ", expected " ++ wanted
  | range n wanted => "invalid value: integer `" ++ toString n ++ "`, expected " ++ wanted

/-- A cause and where it shows. -/
structure Fault where
  /-- The cause. -/
  cause : Cause
  /-- The part of the text where it shows. -/
  extent : Extent
deriving DecidableEq, Repr

/-- Throws a fault. -/
def fail (cause : Cause) (extent : Extent) : Except Fault α :=
  .error ⟨cause, extent⟩

/-! ### Telling a fault -/

/-- The start of the last line of a text. -/
def lastLineStart (t : Text) : Nat :=
  t.length - (t.reverse.takeWhile (· ≠ '\n')).length

/-- The number of the line and the column of a place, both from zero. A place at the end of
the text comes right behind its last character. The column counts characters, except at one
that takes several bytes: there it counts bytes. -/
def lineAndColumn (t : Text) (place : Nat) : Nat × Nat :=
  let before := if place < t.length then t.take place else t.dropLast
  let start := lastLineStart before
  let line := (before.filter (· = '\n')).length
  match t[place]? with
  | none => (line, t.length - start)
  | some c =>
    (line, if c.toNat < 0x80 then place - start else utf8Length (before.drop start))

/-- So many blanks. -/
def blanks (n : Nat) : String :=
  String.ofList (List.replicate n ' ')

/-- How a message says that a text is no document. -/
def notUnderstood : String := "TOML parse error"

/-- A fault of a text as it is told: where it shows, the line with marks below it, and the
cause. -/
def Fault.report (fault : Fault) (t : Text) : String :=
  let (line, column) := lineAndColumn t fault.extent.start
  let content := ((t.splitOn '\n')[line]?).getD []
  let part := (t.take fault.extent.stop).drop fault.extent.start
  let marks := max 1 (min (utf8Length part) (utf8Length content - column))
  let number := toString (line + 1)
  let gutter := blanks (number.length + 1) ++ "|"
  notUnderstood ++ " at line " ++ number ++ ", column " ++ toString (column + 1) ++ "\n" ++
    gutter ++ "\n" ++ number ++ " | " ++ String.ofList content ++ "\n" ++
    gutter ++ blanks (column + 1) ++ String.ofList (List.replicate marks '^') ++ "\n" ++
    fault.cause.message ++ "\n"

end Signpost.Toml
