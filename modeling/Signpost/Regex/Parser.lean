import Signpost.Regex.Basic
import Signpost.Regex.Fault
import Signpost.Regex.Kind

/-!
# Reading regular expressions

An expression is read from the left. A place in it is the number of characters before it,
and every reader takes a place and gives back another one behind what it has read. Groups
and classes nest, so their readers call themselves; each call has passed a character more,
which is why a bound of one more than the length of the expression is never used up.

Flags that are set inside a group hold up to its end. Since only the question whether there
is a match is asked, it makes no difference whether a repetition takes much or little, and
which groups have names.
-/

namespace Signpost.Regex

/-- How an expression is read. -/
structure Flags where
  /-- Without regard to the case of letters. -/
  caseless : Bool := false
  /-- Anchors are about lines. -/
  lines : Bool := false
  /-- A dot is also a line feed. -/
  dotAll : Bool := false
  /-- Kinds are about all characters, not only about ASCII. -/
  unicode : Bool := true
  /-- White space and comments are passed over. -/
  spaced : Bool := false

/-- The expression that is read. -/
abbrev Source := Array Char

/-- The outcome of reading, mostly a value and the place behind it. -/
abbrev Reading := Except Fault

/-- A fault at one character. -/
def faultAt (reason : Reason) (place : Nat) : Fault := ⟨reason, place, place + 1, none⟩

/-- A fault between two places. -/
def faultFrom (reason : Reason) (start stop : Nat) : Fault := ⟨reason, start, stop, none⟩

/-- Whether a text stands at a place. -/
def standsAt (source : Source) (place : Nat) (t : Text) : Bool :=
  (source.toList.drop place).take t.length = t

/-- The place behind white space and comments, if they are passed over. -/
def skipSpace (source : Source) (flags : Flags) (place : Nat) : Nat :=
  if flags.spaced then source.size - (skip false (source.toList.drop place)).length else place
where
  /-- What follows white space and comments. -/
  skip : Bool → Text → Text
    | _, [] => []
    | true, c :: rest => skip (c != '\n') rest
    | false, c :: rest =>
      if c = '#' then skip true rest
      else if Text.isBlank c then skip false rest
      else c :: rest

/-! ### Escapes -/

/-- What a backslash and what follows it stand for. -/
inductive Escape where
  /-- A character. -/
  | char (c : Char)
  /-- A kind of characters. -/
  | kind (kind : Kind)
  /-- A condition on the place. -/
  | anchor (anchor : Anchor)

/-- Characters that have a meaning of their own, or may get one. -/
def isMeta (c : Char) : Bool :=
  "\\.+*?()|[]\x7b\x7d^$#&-~".toList.contains c

/-- Characters that may stand behind a backslash although that changes nothing. -/
def isPlain (c : Char) : Bool :=
  c.toNat < 0x80 && !c.isAlphanum && c ≠ '<' && c ≠ '>'

/-- The character of a number, if there is one. -/
def scalar? (n : Nat) : Option Char :=
  if n < 0xD800 || (0xE000 ≤ n && n < 0x110000) then some (Char.ofNat n) else none

/-- The character of so many hexadecimal digits. -/
def hexDigits (source : Source) (place count : Nat) : Reading (Char × Nat) := do
  let digits := (source.toList.drop place).take count
  let good := digits.takeWhile (Digits.isOf 16)
  if good.length < digits.length then throw (faultAt .hexDigit (place + good.length))
  else if digits.length < count then throw (faultFrom .escapeEnd source.size source.size)
  else
    match scalar? (Digits.number 16 digits) with
    | some c => return (c, place + count)
    | none => throw (faultFrom .hexInvalid place (place + count))

/-- The character of hexadecimal digits in braces, of which the first is at the place. -/
def hexBraces (source : Source) (place : Nat) : Reading (Char × Nat) := do
  let inside := (source.toList.drop (place + 1)).takeWhile (· ≠ '\x7d')
  let good := inside.takeWhile (Digits.isOf 16)
  let stop := place + 1 + inside.length
  if good.length < inside.length then throw (faultAt .hexDigit (place + 1 + good.length))
  else if stop = source.size then throw (faultFrom .escapeEnd place stop)
  else if inside.isEmpty then throw (faultFrom .hexEmpty place (stop + 1))
  else
    match scalar? (Digits.number 16 inside) with
    | some c => return (c, stop + 1)
    | none => throw (faultFrom .hexInvalid (place + 1) stop)

/-- The character of hexadecimal digits behind a letter that says how many there are. -/
def hex (source : Source) (place count : Nat) : Reading (Char × Nat) :=
  match source[place]? with
  | none => .error (faultFrom .escapeEnd place place)
  | some '\x7b' => hexBraces source place
  | some _ => hexDigits source place count

/-- The kinds of word boundaries, by name. -/
def boundaries : List (String × Anchor) :=
  [("start", .wordStart), ("end", .wordEnd), ("start-half", .wordStartHalf),
    ("end-half", .wordEndHalf)]

/-- The kind of a word boundary in braces behind its letter, if it is there. A brace that no
name can follow belongs to a repetition. -/
def boundary (source : Source) (start place : Nat) : Reading (Anchor × Nat) := do
  if source[place]? ≠ some '\x7b' then return (.boundary, place)
  let isNameChar (c : Char) : Bool := c.isAlpha || c = '-'
  match source[place + 1]? with
  | none => throw (faultFrom .boundaryEnd start source.size)
  | some c =>
    if !isNameChar c then return (.boundary, place)
    let name := (source.toList.drop (place + 1)).takeWhile isNameChar
    let stop := place + 1 + name.length
    if source[stop]? ≠ some '\x7d' then throw (faultFrom .boundaryUnclosed place stop)
    match boundaries.lookup (String.ofList name) with
    | some anchor => return (anchor, stop + 1)
    | none => throw (faultFrom .boundaryUnknown (place + 1) stop)

/-- The end of the name of a kind of characters behind its letter. -/
def property (source : Source) (start place : Nat) : Fault :=
  match source[place]? with
  | none => faultFrom .escapeEnd place place
  | some '\x7b' =>
    let inside := (source.toList.drop (place + 1)).takeWhile (· ≠ '\x7d')
    let stop := place + 1 + inside.length
    if stop = source.size then faultFrom .escapeEnd stop stop
    else faultFrom .propertyUnknown start (stop + 1)
  | some '\\' => faultFrom .propertyInvalid place (place + 1)
  | some _ => faultFrom .propertyUnknown start (place + 1)

/-- An escape, whose backslash is at the place. -/
def escape (source : Source) (flags : Flags) (start : Nat) : Reading (Escape × Nat) := do
  match source[start + 1]? with
  | none => throw (faultFrom .escapeEnd start (start + 1))
  | some c =>
    let stop := start + 2
    if c.isDigit then throw (faultFrom .backreference start stop)
    if let some kind := Kind.ofLetter? flags.unicode c then return (.kind kind, stop)
    if isMeta c || isPlain c then return (.char c, stop)
    match c with
    | 'x' => return (← hex source stop 2).map .char id
    | 'u' => return (← hex source stop 4).map .char id
    | 'U' => return (← hex source stop 8).map .char id
    | 'p' => throw (property source start stop)
    | 'P' => throw (property source start stop)
    | 'a' => return (.char '\x07', stop)
    | 'f' => return (.char '\x0c', stop)
    | 't' => return (.char '\t', stop)
    | 'n' => return (.char '\n', stop)
    | 'r' => return (.char '\r', stop)
    | 'v' => return (.char '\x0b', stop)
    | 'A' => return (.anchor .textStart, stop)
    | 'z' => return (.anchor .textEnd, stop)
    | 'b' => return (← boundary source start stop).map .anchor id
    | 'B' => return (.anchor .noBoundary, stop)
    | '<' => return (.anchor .wordStart, stop)
    | '>' => return (.anchor .wordEnd, stop)
    | _ => throw (faultFrom .escapeUnknown start stop)

/-! ### Classes -/

/-- The operations on sets of characters. -/
inductive SetOp where
  /-- What is in both. -/
  | both
  /-- What is in the first only. -/
  | minus
  /-- What is in exactly one of them. -/
  | differ
deriving DecidableEq, Repr

/-- Applies an operation to two kinds. -/
def SetOp.apply (a b : Kind) : SetOp → Kind
  | both => fun c => a c && b c
  | minus => fun c => a c && !b c
  | differ => fun c => a c != b c

/-- The operation that stands at a place. -/
def setOp? (source : Source) (place : Nat) : Option SetOp :=
  match source[place]?, source[place + 1]? with
  | some '&', some '&' => some .both
  | some '-', some '-' => some .minus
  | some '~', some '~' => some .differ
  | _, _ => none

/-- A class as far as it has been read. -/
structure ClassDraft where
  /-- Where it starts, and where its head stops. -/
  head : Nat × Nat
  /-- Whether it is about all other characters. -/
  negated : Bool
  /-- What has been read since the last operation. -/
  kind : Kind := fun _ => false
  /-- What stands before the last operation. -/
  pending : Option (SetOp × Kind) := none

/-- The kind that has been read so far. -/
def ClassDraft.sum (draft : ClassDraft) : Kind :=
  match draft.pending with
  | none => draft.kind
  | some (op, before) => op.apply before draft.kind

/-- A class with one more kind in it. -/
def ClassDraft.add (draft : ClassDraft) (kind : Kind) : ClassDraft :=
  { draft with kind := Kind.or draft.kind kind }

/-- The fault of a class that is not closed. -/
def ClassDraft.unclosed (draft : ClassDraft) : Fault :=
  faultFrom .classUnclosed draft.head.1 draft.head.2

/-- The dashes at a place, all of which stand for themselves. -/
def dashes (source : Source) (place : Nat) : Nat :=
  ((source.toList.drop place).takeWhile (· = '-')).length

/-- The head of a class: its bracket, a sign of negation, dashes, or else a closing bracket
that stands for itself. -/
def classHead (source : Source) (start : Nat) : Reading (ClassDraft × Nat) := do
  let negated := source[start + 1]? = some '^'
  let place := if negated then start + 2 else start + 1
  if source.size ≤ place then throw (faultFrom .classUnclosed start place)
  let count := dashes source place
  let behind := place + count
  if 0 < count && source.size ≤ behind then throw (faultFrom .classUnclosed start start)
  let bracket := count = 0 && source[place]? = some ']'
  let behind := if bracket then place + 1 else behind
  if bracket && source.size ≤ behind then throw (faultFrom .classUnclosed start behind)
  let draft : ClassDraft := { head := (start, behind), negated }
  let draft := if 0 < count then draft.add (Kind.just '-') else draft
  return (if bracket then draft.add (Kind.just ']') else draft, behind)

/-- A class of ASCII with its name between brackets and colons, if it stands at a place. -/
def namedClass? (source : Source) (place : Nat) : Option (Kind × Nat) := do
  guard (standsAt source place "[:".toList)
  let negated := source[place + 2]? = some '^'
  let start := if negated then place + 3 else place + 2
  let name := (source.toList.drop start).takeWhile (· ≠ ':')
  let stop := start + name.length
  guard (standsAt source stop ":]".toList)
  let kind ← Kind.ofName? (String.ofList name)
  return (if negated then Kind.other kind else kind, stop + 2)

/-- A character or an escape inside a class. -/
def classItem (source : Source) (flags : Flags) (place : Nat) : Reading (Escape × Nat) :=
  match source[place]? with
  | some '\\' => escape source flags place
  | some c => .ok (.char c, place + 1)
  | none => .error (faultFrom .classUnclosed place place)

/-- A character, a kind or a range inside a class. -/
def classRange (source : Source) (flags : Flags) (draft : ClassDraft) (start : Nat) :
    Reading (Kind × Nat) := do
  let (first, place) ← classItem source flags start
  let dash := skipSpace source flags place
  if source.size ≤ dash then throw draft.unclosed
  let next := skipSpace source flags (dash + 1)
  if source[dash]? ≠ some '-' || source[next]? = some ']' || source[next]? = some '-' then
    match first with
    | .char c => return (Kind.just c, place)
    | .kind kind => return (kind, place)
    | .anchor _ => throw (faultFrom .classEscape start place)
  else if source.size ≤ next then throw draft.unclosed
  else
    let (last, stop) ← classItem source flags next
    match first, last with
    | .char a, .char b =>
      if a ≤ b then return (Kind.between a b, stop)
      else throw (faultFrom .classRange start stop)
    | .char _, _ => throw (faultFrom .classBoundary next stop)
    | _, _ => throw (faultFrom .classBoundary start place)

/-- The rest of a class up to the bracket that closes it. -/
def classTail (source : Source) (flags : Flags) : Nat → ClassDraft → Nat → Reading (Kind × Nat)
  | 0, draft, _ => .error draft.unclosed
  | fuel + 1, draft, place => do
    let place := skipSpace source flags place
    match source[place]? with
    | none => throw draft.unclosed
    | some ']' =>
      let kind := if flags.caseless then Kind.caseless draft.sum else draft.sum
      return (if draft.negated then Kind.other kind else kind, place + 1)
    | some '[' =>
      if let some (kind, place) := namedClass? source place then
        classTail source flags fuel (draft.add kind) place
      else
        let (inner, place) ← classHead source place
        let (kind, place) ← classTail source flags fuel inner place
        classTail source flags fuel (draft.add kind) place
    | some _ =>
      match setOp? source place with
      | some op =>
        let draft := { draft with kind := fun _ => false, pending := some (op, draft.sum) }
        classTail source flags fuel draft (place + 2)
      | none =>
        let (kind, place) ← classRange source flags draft place
        classTail source flags fuel (draft.add kind) place

/-! ### Repetition -/

/-- A number of repetitions, with blanks around it. The number may be missing. -/
def count? (source : Source) (place : Nat) : Reading (Option Nat × Nat) := do
  let isSpace (c : Char) : Bool := Text.isBlank c
  let rest := source.toList.drop place
  let start := place + (rest.takeWhile isSpace).length
  let digits := (rest.dropWhile isSpace).takeWhile Char.isDigit
  let stop := start + digits.length
  let behind := stop + ((source.toList.drop stop).takeWhile isSpace).length
  if digits.isEmpty then return (none, behind)
  else
    let n := Digits.number 10 digits
    if n < 0x100000000 then return (some n, behind)
    else throw (faultFrom .decimalInvalid start stop)

/-- How often something is repeated: at least, and at most. -/
abbrev Count := Nat × Option Nat

/-- The count in braces, of which the first is at the place. -/
def counted (source : Source) (start : Nat) : Reading (Count × Nat) := do
  let unclosed (stop : Nat) : Fault := faultFrom .countUnclosed start stop
  if source.size ≤ start + 1 then throw (unclosed (start + 1))
  let (least, place) ← count? source (start + 1)
  let empty := faultFrom .countEmpty place place
  if source.size ≤ place then throw (unclosed place)
  let (count, place) ←
    if source[place]? = some ',' then
      if source.size ≤ place + 1 then throw (unclosed (place + 1))
      else if source[place + 1]? = some '\x7d' then
        match least with
        | some least => pure ((least, none), place + 1)
        | none => throw empty
      else
        match least with
        | none => throw empty
        | some least =>
          match ← count? source (place + 1) with
          | (some most, stop) => pure ((least, some most), stop)
          | (none, stop) => throw (faultFrom .countEmpty stop stop)
    else
      match least with
      | some least => pure ((least, some least), place)
      | none => throw empty
  if source[place]? ≠ some '\x7d' then throw (unclosed place)
  let lazily := source[place + 1]? = some '?'
  let stop := if lazily then place + 2 else place + 1
  if count.2.any (· < count.1) then throw (faultFrom .countRange start stop)
  else return (count, stop)

/-- The count that a sign stands for. -/
def countOf? : Char → Option Count
  | '?' => some (0, some 1)
  | '*' => some (0, none)
  | '+' => some (1, none)
  | _ => none

/-! ### Groups -/

/-- The head of a group. -/
inductive Head where
  /-- Flags, up to the end of the group around them. -/
  | flags (flags : Flags)
  /-- A group with flags of its own, and its name. -/
  | group (flags : Flags) (name : Option Text)

/-- Switches a flag. -/
def Flags.set (flags : Flags) (letter : Char) (value : Bool) : Option Flags :=
  match letter with
  | 'i' => some { flags with caseless := value }
  | 'm' => some { flags with lines := value }
  | 's' => some { flags with dotAll := value }
  | 'u' => some { flags with unicode := value }
  | 'x' => some { flags with spaced := value }
  | 'U' => some flags
  | 'R' => some flags
  | _ => none

/-- Reads flags up to a colon or a closing bracket, after those between `start` and the
place. -/
def flagList (source : Source) (start : Nat) : Nat → Flags → Nat → Reading (Flags × Nat)
  | 0, _, place => .error (faultFrom .flagEnd place place)
  | fuel + 1, flags, place => do
    let seen := (source.toList.drop start).take (place - start)
    match source[place]? with
    | none => throw (faultFrom .flagEnd place place)
    | some c =>
      if c = ':' || c = ')' then
        if seen.getLast? = some '-' then throw (faultAt .flagDangling (place - 1))
        else return (flags, place)
      else
        if seen.contains c then
          let reason := if c = '-' then .flagNegatedTwice else .flagTwice
          throw { faultAt reason place with other := (seen.idxOf? c).map (start + ·) }
        if c = '-' then flagList source start fuel flags (place + 1)
        else
          match flags.set c (!seen.contains '-') with
          | none => throw (faultAt .flagUnknown place)
          | some flags => flagList source start fuel flags (place + 1)

/-- Whether a character may stand in the name of a group, as its first one or later. -/
def isNameChar (first : Bool) (c : Char) : Bool :=
  if first then c = '_' || (Text.isWordChar c && !Kind.digit c)
  else Text.isWordChar c || ['.', '[', ']'].contains c

/-- The name of a group up to the bracket that closes it. -/
def groupName (source : Source) (start : Nat) : Reading (Text × Nat) := do
  let name := (source.toList.drop start).takeWhile (· ≠ '>')
  let good := match name with
    | [] => 0
    | c :: rest =>
      if isNameChar true c then 1 + (rest.takeWhile (isNameChar false)).length else 0
  let stop := start + name.length
  if good < name.length then throw (faultAt .nameInvalid (start + good))
  else if source.size ≤ stop then throw (faultFrom .nameEnd stop stop)
  else if name.isEmpty then throw (faultFrom .nameEmpty start start)
  else return (name, stop + 1)

/-- The head of a group, whose bracket is at the place. -/
def groupHead (source : Source) (flags : Flags) (start : Nat) : Reading (Head × Nat) := do
  let place := skipSpace source flags (start + 1)
  for mark in ["?=", "?!", "?<=", "?<!"] do
    if standsAt source place mark.toList then
      throw (faultFrom .lookAround start (place + mark.length))
  for mark in ["?P<", "?<"] do
    if standsAt source place mark.toList then
      let (name, place) ← groupName source (place + mark.length)
      return (.group flags (some name), place)
  if source[place]? = some '?' then
    let inner := place + 1
    if source.size ≤ inner then throw (faultAt .groupUnclosed start)
    let (set, stop) ← flagList source inner (source.size + 1) flags inner
    if source[stop]? = some ')' then
      if stop = inner then throw (faultFrom .nothingToRepeat place place)
      return (.flags set, stop + 1)
    else return (.group set none, stop + 1)
  else return (.group flags none, place)

/-- A group as far as it has been read. -/
structure Draft where
  /-- The flags that hold. -/
  flags : Flags
  /-- The alternatives that are complete, the last one first. -/
  complete : List Regex := []
  /-- What the last alternative consists of, the last part first. Flags are no part. -/
  parts : List (Option Regex) := []
  /-- The names of groups, with the places where they start. -/
  names : List (Text × Nat) := []

namespace Draft

/-- The last alternative. -/
def last (draft : Draft) : Regex :=
  Regex.all (draft.parts.filterMap id).reverse

/-- The whole group. -/
def regex (draft : Draft) : Regex :=
  match (draft.last :: draft.complete).reverse with
  | [] => .nothing
  | first :: rest => Regex.any first rest

/-- Another part follows. -/
def push (draft : Draft) (regex : Regex) : Draft :=
  { draft with parts := some regex :: draft.parts }

/-- Another alternative follows. -/
def next (draft : Draft) : Draft :=
  { draft with complete := draft.last :: draft.complete, parts := [] }

/-- The last part is repeated, if there is one. -/
def repeatLast? (draft : Draft) (count : Count) : Option Draft :=
  match draft.parts with
  | some regex :: rest =>
    some { draft with parts := some (.times count.1 count.2 regex) :: rest }
  | _ => none

end Draft

/-- The expression of one character. -/
def literal (flags : Flags) (c : Char) : Regex :=
  .one (if flags.caseless then Kind.caseless (Kind.just c) else Kind.just c)

/-- The expression of a condition. -/
def condition (flags : Flags) (anchor : Anchor) : Regex :=
  .check (if flags.unicode then Text.isWordChar else Kind.asciiWord) anchor

/-- The part that a character or an escape stands for. -/
def single (source : Source) (flags : Flags) (place : Nat) (c : Char) : Reading (Regex × Nat) := do
  match c with
  | '\\' =>
    let (escape, place) ← escape source flags place
    match escape with
    | .char c => return (literal flags c, place)
    | .kind kind => return (.one kind, place)
    | .anchor anchor => return (condition flags anchor, place)
  | '.' => return (.one (if flags.dotAll then fun _ => true else (· ≠ '\n')), place + 1)
  | '^' => return (condition flags (if flags.lines then .lineStart else .textStart), place + 1)
  | '$' => return (condition flags (if flags.lines then .lineEnd else .textEnd), place + 1)
  | c => return (literal flags c, place + 1)

/-- The rest of a group, up to the bracket that closes it or to the end. -/
def groupTail (source : Source) : Nat → Draft → Nat → Reading (Draft × Nat)
  | 0, draft, place => .ok (draft, place)
  | fuel + 1, draft, place => do
    let place := skipSpace source draft.flags place
    match source[place]? with
    | none => return (draft, place)
    | some ')' => return (draft, place)
    | some '|' => groupTail source fuel draft.next (place + 1)
    | some '(' =>
      let (head, behind) ← groupHead source draft.flags place
      match head with
      | .flags flags =>
        groupTail source fuel { draft with flags, parts := none :: draft.parts } behind
      | .group flags name =>
        let known := draft.names.find? fun (other, _) => some other = name
        if let some (other, start) := known then
          let here := behind - 1 - other.length
          throw { faultFrom .nameTwice here (behind - 1) with other := some start }
        let names := match name with
          | some name => (name, behind - 1 - name.length) :: draft.names
          | none => draft.names
        let (inner, stop) ← groupTail source fuel { flags, names } behind
        if source.size ≤ stop then throw (faultAt .groupUnclosed place)
        let draft := { draft.push inner.regex with names := inner.names }
        groupTail source fuel draft (stop + 1)
    | some '[' =>
      let (head, behind) ← classHead source place
      let (kind, stop) ← classTail source draft.flags fuel head behind
      groupTail source fuel (draft.push (.one kind)) stop
    | some '\x7b' =>
      if draft.parts.head?.join.isNone then throw (faultFrom .nothingToRepeat place place)
      let (count, stop) ← counted source place
      groupTail source fuel ((draft.repeatLast? count).getD draft) stop
    | some c =>
      match countOf? c with
      | some count =>
        match draft.repeatLast? count with
        | none => throw (faultFrom .nothingToRepeat place place)
        | some draft =>
          let stop := if source[place + 1]? = some '?' then place + 2 else place + 1
          groupTail source fuel draft stop
      | none =>
        let (regex, stop) ← single source draft.flags place c
        groupTail source fuel (draft.push regex) stop

/-- The expression that a text spells. -/
def parse (t : Text) : Except Fault Regex := do
  let source := t.toArray
  let (draft, stop) ← groupTail source (source.size + 1) { flags := {} } 0
  if stop < source.size then throw (faultAt .groupUnopened stop)
  else return draft.regex

end Signpost.Regex
