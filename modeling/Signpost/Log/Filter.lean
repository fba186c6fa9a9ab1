import Signpost.Log
import Signpost.Regex.Parser

/-!
# Which records are shown

A filter is a list of rules, and a rule lets the records of some origins through up to a
level. The origins are given by what their names start with; a rule that names none is
about all of them. Of the rules that are about a record, the one that **names most of its
origin** decides.

A filter is written as a list of words with commas between them: a level, the start of an
origin, or both with an equals sign. Behind a slash a regular expression may follow, which
narrows the filter to the records whose message it matches. A part that makes no sense is
left out, with a warning.
-/

namespace Signpost

/-- How much a rule lets through: everything up to a level, or nothing. -/
inductive Threshold where
  /-- Nothing. -/
  | off
  /-- Everything up to a level. -/
  | upTo (level : Level)
deriving DecidableEq, Repr

namespace Threshold

/-- Whether a level is let through. -/
def admits : Threshold → Level → Bool
  | off, _ => false
  | upTo most, level => level.rank ≤ most.rank

/-- The threshold with a name, in either case. -/
def ofName? (name : Text) : Option Threshold :=
  match String.ofList (name.map Char.toUpper) with
  | "OFF" => some off
  | "ERROR" => some (upTo .error)
  | "WARN" => some (upTo .warn)
  | "INFO" => some (upTo .info)
  | "DEBUG" => some (upTo .debug)
  | "TRACE" => some (upTo .trace)
  | _ => none

end Threshold

/-- A rule on the records of some origins. -/
structure LogRule where
  /-- What the names of the origins start with; without it the rule is about all. -/
  start : Option Text
  /-- What is let through. -/
  threshold : Threshold
deriving DecidableEq, Repr

namespace LogRule

/-- Whether a rule is about an origin. -/
def appliesTo (rule : LogRule) (origin : String) : Bool :=
  match rule.start with
  | none => true
  | some start => start.isPrefixOf origin.toList

/-- How much of an origin a rule names. -/
def weight (rule : LogRule) : Nat :=
  match rule.start with
  | none => 0
  | some start => utf8Length start

/-- A rule put into a list of rules, in the place of one about the same origins. -/
def insert (rules : List LogRule) (rule : LogRule) : List LogRule :=
  if rules.any (·.start = rule.start) then
    rules.map fun other => if other.start = rule.start then rule else other
  else
    rules ++ [rule]

end LogRule

/-- A filter of log records. -/
structure LogFilter where
  /-- The rules. -/
  rules : List LogRule
  /-- What the message must match. -/
  pattern : Option Regex := none

namespace LogFilter

/-- The rule that holds when there is no other: failures only. -/
def standard : LogRule := ⟨none, .upTo .error⟩

/-- The rule that decides about an origin: the last of the weightiest that apply. -/
def ruleFor? (filter : LogFilter) (origin : String) : Option LogRule :=
  (filter.rules.filter (·.appliesTo origin)).foldl
    (fun best rule =>
      match best with
      | none => some rule
      | some other => if other.weight ≤ rule.weight then some rule else best)
    none

/-- Whether a record is shown. -/
def admits (filter : LogFilter) (record : Record) : Bool :=
  match filter.ruleFor? record.origin with
  | none => false
  | some rule =>
    rule.threshold.admits record.level &&
      filter.pattern.all fun regex => regex.isMatch record.message.toList

/-! ### Reading a filter -/

/-- A text without white space at its ends. -/
def trim (t : Text) : Text :=
  (Text.trimStart (Text.trimStart t).reverse).reverse

/-- A part of a filter that makes no sense. -/
inductive Nonsense where
  /-- A word, or the part of it behind the equals sign. -/
  | word (part : Text)
  /-- A filter with more than one slash. -/
  | slashes (spec : Text)
  /-- A regular expression that cannot be read. -/
  | pattern (expression : Text) (fault : Regex.Fault)
deriving DecidableEq, Repr

/-- The warning about a part of a filter that makes no sense. -/
def Nonsense.warning (nonsense : Nonsense) : String :=
  let complaint := match nonsense with
    | word part => "invalid logging spec '" ++ String.ofList part ++ "'"
    | slashes spec => "invalid logging spec '" ++ String.ofList spec ++ "' (too many '/'s)"
    | pattern expression fault => "invalid regex filter - " ++ fault.message expression
  "warning: " ++ complaint ++ ", ignoring it"

/-- The rule that a word stands for, or the part of it that makes no sense. -/
def rule (word : Text) : Except Text LogRule :=
  match word.splitOn '=' with
  | [name] =>
    match Threshold.ofName? name with
    | some threshold => .ok ⟨none, threshold⟩
    | none => .ok ⟨some name, .upTo .trace⟩
  | [name, level] =>
    let level := trim level
    if level.isEmpty then .ok ⟨some name, .upTo .trace⟩
    else
      match Threshold.ofName? level with
      | some threshold => .ok ⟨some name, threshold⟩
      | none => .error level
  | _ => .error word

/-- The rules of a list of words, and the parts of it that make no sense. -/
def rulesOf (t : Text) : List LogRule × List Nonsense :=
  let words := ((t.splitOn ',').map trim).filter (!·.isEmpty)
  words.foldl
    (fun (rules, nonsense) word =>
      match rule word with
      | .ok rule => (LogRule.insert rules rule, nonsense)
      | .error part => (rules, nonsense ++ [.word part]))
    ([], [])

/-- The regular expression behind the slash, and what makes no sense about it. -/
def patternOf (t : Text) : Option Regex × List Nonsense :=
  match Regex.parse t with
  | .ok regex => (some regex, [])
  | .error fault => (none, [.pattern t fault])

/-- The filter that a text stands for, and the parts of it that make no sense. -/
def parse (t : Text) : LogFilter × List Nonsense :=
  let ((rules, nonsense), (pattern, more)) := match t.splitOn '/' with
    | [words] => (rulesOf words, (none, []))
    | [words, expression] => (rulesOf words, patternOf expression)
    | _ => (([], [.slashes t]), (none, []))
  ({ rules := if rules.isEmpty then [standard] else rules, pattern }, nonsense ++ more)

end LogFilter

/-! ### Showing records -/

/-- The name of a level, with blanks up to the longest one. -/
def Level.padded (level : Level) : String :=
  String.ofList (level.name.toList ++ List.replicate (5 - level.name.length) ' ')

/-- How far the lines of a message after its first one are moved in. -/
def Record.indent : Text := ['\n', ' ', ' ', ' ', ' ']

/-- A record as it is shown. -/
def Record.shown (record : Record) : String :=
  let message := record.message.toList.flatMap fun c =>
    if c = '\n' then Record.indent else [c]
  "[" ++ record.level.padded ++ " " ++ record.origin ++ "] " ++ String.ofList message

end Signpost
