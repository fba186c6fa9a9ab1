import Signpost.Text.Basic

/-!
# Faults of regular expressions

An expression that cannot be read is reported with the part of it that is at fault: the
expression is shown, the part is marked below it, and the reason follows.
-/

namespace Signpost.Regex

/-- Why an expression cannot be read. -/
inductive Reason where
  /-- An escape that a class cannot hold. -/
  | classEscape
  /-- A range whose start is greater than its end. -/
  | classRange
  /-- A range from or to something that is no character. -/
  | classBoundary
  /-- A class is not closed. -/
  | classUnclosed
  /-- A number that is too great. -/
  | decimalInvalid
  /-- No hexadecimal digits at all. -/
  | hexEmpty
  /-- Hexadecimal digits that denote no character. -/
  | hexInvalid
  /-- Something that is no hexadecimal digit. -/
  | hexDigit
  /-- An escape ends too early. -/
  | escapeEnd
  /-- There is no such escape. -/
  | escapeUnknown
  /-- Nothing follows the sign that switches flags off. -/
  | flagDangling
  /-- A flag is given twice. -/
  | flagTwice
  /-- Flags are switched off twice. -/
  | flagNegatedTwice
  /-- The expression ends among the flags. -/
  | flagEnd
  /-- There is no such flag. -/
  | flagUnknown
  /-- Two groups have one name. -/
  | nameTwice
  /-- The name of a group is empty. -/
  | nameEmpty
  /-- A character that names of groups cannot have. -/
  | nameInvalid
  /-- The expression ends within the name of a group. -/
  | nameEnd
  /-- A group is not closed. -/
  | groupUnclosed
  /-- A group is closed that was not opened. -/
  | groupUnopened
  /-- A number of repetitions whose least is greater than its most. -/
  | countRange
  /-- A number of repetitions is missing. -/
  | countEmpty
  /-- A number of repetitions is not closed. -/
  | countUnclosed
  /-- There is nothing to repeat. -/
  | nothingToRepeat
  /-- A kind of word boundary is not closed. -/
  | boundaryUnclosed
  /-- There is no such kind of word boundary. -/
  | boundaryUnknown
  /-- A brace behind a word boundary is not closed. -/
  | boundaryEnd
  /-- The name of a kind of characters is malformed. -/
  | propertyInvalid
  /-- There is no such kind of characters. -/
  | propertyUnknown
  /-- Groups cannot be referred to. -/
  | backreference
  /-- Nothing can be looked up around a place. -/
  | lookAround
deriving DecidableEq, Repr

/-- The wording of a reason. -/
def Reason.message : Reason → String
  | classEscape => "invalid escape sequence found in character class"
  | classRange => "invalid character class range, the start must be <= the end"
  | classBoundary => "invalid range boundary, must be a literal"
  | classUnclosed => "unclosed character class"
  | decimalInvalid => "decimal literal invalid"
  | hexEmpty => "hexadecimal literal empty"
  | hexInvalid => "hexadecimal literal is not a Unicode scalar value"
  | hexDigit => "invalid hexadecimal digit"
  | escapeEnd => "incomplete escape sequence, reached end of pattern prematurely"
  | escapeUnknown => "unrecognized escape sequence"
  | flagDangling => "dangling flag negation operator"
  | flagTwice => "duplicate flag"
  | flagNegatedTwice => "flag negation operator repeated"
  | flagEnd => "expected flag but got end of regex"
  | flagUnknown => "unrecognized flag"
  | nameTwice => "duplicate capture group name"
  | nameEmpty => "empty capture group name"
  | nameInvalid => "invalid capture group character"
  | nameEnd => "unclosed capture group name"
  | groupUnclosed => "unclosed group"
  | groupUnopened => "unopened group"
  | countRange => "invalid repetition count range, the start must be <= the end"
  | countEmpty => "repetition quantifier expects a valid decimal"
  | countUnclosed => "unclosed counted repetition"
  | nothingToRepeat => "repetition operator missing expression"
  | boundaryUnclosed =>
    "special word boundary assertion is either unclosed or contains an invalid character"
  | boundaryUnknown =>
    "unrecognized special word boundary assertion, valid choices are: " ++
      "start, end, start-half or end-half"
  | boundaryEnd =>
    "found either the beginning of a special word boundary or a bounded repetition on a \\b " ++
      "with an opening brace, but no closing brace"
  | propertyInvalid => "invalid Unicode character class"
  | propertyUnknown => "Unicode property not found"
  | backreference => "backreferences are not supported"
  | lookAround => "look-around, including look-ahead and look-behind, is not supported"

/-- A fault of an expression: the reason, and the places where the part that is at fault
starts and stops. A second part may be to blame as well. -/
structure Fault where
  /-- The reason. -/
  reason : Reason
  /-- Where the part starts. -/
  start : Nat
  /-- Where the part stops. -/
  stop : Nat
  /-- Where another part starts that stands before it. -/
  other : Option Nat := none
deriving DecidableEq, Repr

/-- So many blanks. -/
def blanks (n : Nat) : Text :=
  List.replicate n ' '

/-- The line of marks below an expression. -/
def Fault.marks (fault : Fault) : Text :=
  let before := match fault.other with
    | none => blanks fault.start
    | some place => blanks place ++ ['^'] ++ blanks (fault.start - place - 1)
  before ++ List.replicate (max 1 (fault.stop - fault.start)) '^'

/-- The wording of a fault of an expression. -/
def Fault.message (fault : Fault) (expression : Text) : String :=
  let shown (t : Text) : String := String.ofList (blanks 4 ++ t) ++ "\n"
  "regex parse error:\n" ++ shown expression ++ shown fault.marks ++
    "error: " ++ fault.reason.message

end Signpost.Regex
