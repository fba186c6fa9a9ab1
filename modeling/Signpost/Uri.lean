import Signpost.Text.Basic
import Signpost.Text.Digits

/-!
# The grammar of URIs

Clients name documents by URIs, and the grammar of URIs is stricter than that of URLs: it
is what decides whether a message is understood at all, and whether a target can be named
in an answer. A URI has a scheme, and what follows is divided by a leading `//`, the first
`?` and the first `#` into parts that each have their own set of characters. Every part
may hold an escape of `%` and two hexadecimal digits, and no part holds anything beyond
ASCII.

A text is read from the left. Each step passes over as much as it can and gives back what
follows, or it **stops**: with a reason, and with the text from where it stopped. All that
lies before a stop is ASCII, so the number of its characters is also that of its bytes.
-/

namespace Signpost.Uri

/-- Why a text is no URI. -/
inductive Reason where
  /-- A character stands where none of its kind may stand, or the text ends too early. -/
  | unexpected
  /-- Two hexadecimal digits must follow a percent sign. -/
  | escape
  /-- An address in brackets is malformed. -/
  | address
deriving DecidableEq, Repr

/-- Why a text is no URI, and the part of it from where that shows. -/
structure Stop where
  /-- The reason. -/
  reason : Reason
  /-- What is left. -/
  rest : Text

/-- A step passes over the start of a text, or stops. -/
abbrev Step := Text → Except Stop Text

/-! ### Characters -/

/-- A hexadecimal digit of either case. -/
def isHex : Char → Bool :=
  Digits.isOf 16

/-- A character of a scheme behind its first letter. -/
def isSchemeChar (c : Char) : Bool :=
  c.isAlphanum || ['+', '-', '.'].contains c

/-- A character without any meaning of its own. -/
def isUnreserved (c : Char) : Bool :=
  c.isAlphanum || ['-', '.', '_', '~'].contains c

/-- A character that may divide what stands inside one part. -/
def isSubDelimiter (c : Char) : Bool :=
  ['!', '$', '&', '\'', '(', ')', '*', '+', ',', ';', '='].contains c

/-- A character of a name of a host. -/
def isNameChar (c : Char) : Bool :=
  isUnreserved c || isSubDelimiter c

/-- A character of the part before the host. -/
def isUserChar (c : Char) : Bool :=
  isNameChar c || c = ':'

/-- A character of a path. -/
def isPathChar (c : Char) : Bool :=
  isUserChar c || c = '@' || c = '/'

/-- A character of a query or of a fragment. -/
def isQueryChar (c : Char) : Bool :=
  isPathChar c || c = '?'

/-- Passes over characters of a set and over escapes. -/
def pass (allowed : Char → Bool) : Step
  | [] => .ok []
  | '%' :: a :: b :: rest =>
    if isHex a && isHex b then pass allowed rest
    else .error ⟨.escape, '%' :: a :: b :: rest⟩
  | c :: rest =>
    if c = '%' then .error ⟨.escape, c :: rest⟩
    else if allowed c then pass allowed rest
    else .ok (c :: rest)

/-- Passes over one character. -/
def expect (wanted : Char) : Step
  | [] => .error ⟨.unexpected, []⟩
  | c :: rest => if c = wanted then .ok rest else .error ⟨.unexpected, c :: rest⟩

/-! ### Addresses

An address has eight groups of up to four hexadecimal digits, with colons between them.
One gap of two colons stands for the groups that are left out, at least one of them, and
the last two groups may be written as four decimal numbers. -/

/-- What comes next in an address. -/
inductive Piece where
  /-- A group, with or without a colon before it. -/
  | group (colon : Bool)
  /-- The start of a group in decimals, with or without a colon before it. -/
  | decimals (colon : Bool)
  /-- Two colons. -/
  | gap
  /-- A colon that no group follows. -/
  | colon
deriving DecidableEq, Repr

/-- The piece of an address at the start of a text, and what follows it. A group in
decimals is only announced. -/
def nextPiece (t : Text) : Option Piece × Text :=
  let (colon, t) := match t with
    | ':' :: rest => (true, rest)
    | t => (false, t)
  let otherwise := if colon then some .colon else none
  match t with
  | [] => (otherwise, [])
  | c :: rest =>
    if colon && c = ':' then (some .gap, rest)
    else if !isHex c then (otherwise, t)
    else
      let digits := (t.take 4).takeWhile isHex
      let rest := t.drop digits.length
      if digits.length = 4 then (some (.group colon), rest)
      else
        match rest with
        | [] => (none, [])
        | '.' :: _ => (some (.decimals colon), t)
        | rest => (some (.group colon), rest)

/-- Passes over a decimal number below 256 without leading zeros. -/
def octet? (t : Text) : Option Text :=
  match t with
  | '0' :: rest => some rest
  | t =>
    let digits := (t.take 3).takeWhile Char.isDigit
    if !digits.isEmpty && Digits.number 10 digits < 256 then some (t.drop digits.length)
    else none

/-- Passes over four decimal numbers with points between them. -/
def decimals? (t : Text) : Option Text := do
  let dot (t : Text) : Option Text := Text.skip? ['.'] t
  octet? (← dot (← octet? (← dot (← octet? (← dot (← octet? t))))))

/-- Whether so many groups, with or without a gap, are an address. -/
def isComplete (count : Nat) (gap : Option Nat) : Bool :=
  if gap.isSome then count ≠ 8 else count = 8

/-- Reads an address after so many groups, with a gap behind the given number of them:
whether it is one, and what follows what was read. The bound counts the pieces that an
address may still have. -/
def address : Nat → Nat → Option Nat → Text → Bool × Text
  | 0, count, gap, t => (isComplete count gap, t)
  | fuel + 1, count, gap, t =>
    if count = 8 then (isComplete count gap, t)
    else
      match nextPiece t with
      | (none, rest) => (isComplete count gap, rest)
      | (some .colon, rest) => (false, rest)
      | (some .gap, rest) =>
        if gap.isSome then (false, rest) else address fuel count (some count) rest
      | (some (.group colon), rest) =>
        if colon = (count = 0 || gap = some count) then (false, rest)
        else address fuel (count + 1) gap rest
      | (some (.decimals colon), rest) =>
        if 6 < count || colon = (gap = some count) then (false, rest)
        else
          match decimals? rest with
          | some rest => (isComplete (count + 2) gap, rest)
          | none => (false, rest)

/-- Passes over an address of a later kind: a `v`, a version, a point and more. -/
def laterAddress : Step := fun t =>
  match t with
  | c :: rest =>
    if c = 'v' || c = 'V' then
      match rest.span isHex with
      | ([], rest) => .error ⟨.unexpected, rest⟩
      | (_, '.' :: rest) =>
        match rest.span isUserChar with
        | ([], rest) => .error ⟨.unexpected, rest⟩
        | (_, rest) => .ok rest
      | (_, rest) => .error ⟨.unexpected, rest⟩
    else .error ⟨.unexpected, t⟩
  | [] => .error ⟨.unexpected, t⟩

/-- Passes over an address and the bracket that closes it. -/
def bracketed : Step := fun t => do
  let (complete, rest) := address 9 0 none t
  let rest ←
    if complete then pure rest
    else if rest.length = t.length then laterAddress t
    else throw ⟨.address, t⟩
  expect ']' rest

/-! ### Parts -/

/-- Passes over a port, which may be missing or empty. -/
def port (t : Text) : Text :=
  match t with
  | ':' :: rest => rest.dropWhile Char.isDigit
  | t => t

/-- Passes over a host. -/
def host : Step
  | '[' :: rest => bracketed rest
  | t => pass isNameChar t

/-- Checks a name and a port that were read as one part, with `rest` behind them. A
character of the port that is no digit is seen from the end. -/
def checkName (name rest : Text) : Except Stop Unit :=
  match name.span (· ≠ ':') with
  | (_, []) => .ok ()
  | (_, colon :: digits) =>
    if digits.contains ':' then .error ⟨.unexpected, colon :: digits ++ rest⟩
    else
      match (digits.reverse.span Char.isDigit) with
      | (_, []) => .ok ()
      | (trailing, c :: _) => .error ⟨.unexpected, c :: trailing.reverse ++ rest⟩

/-- Passes over what stands between the double slash and the path. -/
def authority : Step := fun t => do
  match ← pass isUserChar t with
  | '@' :: rest => return port (← host rest)
  | rest =>
    if rest.length = t.length then
      match rest with
      | '[' :: rest => return port (← bracketed rest)
      | rest => return rest
    else
      checkName (t.take (t.length - rest.length)) rest
      return rest

/-- Passes over what stands between the scheme and the query. A path behind a host is empty
or starts with a slash. -/
def hierarchy : Step
  | '/' :: '/' :: t => do
    let path ← authority t
    let rest ← pass isPathChar path
    if rest.length < path.length && path.head? ≠ some '/' then throw ⟨.unexpected, path⟩
    else return rest
  | path => pass isPathChar path

/-- Passes over a part behind its mark, if it is there. -/
def marked (mark : Char) : Step
  | [] => .ok []
  | c :: rest => if c = mark then pass isQueryChar rest else .ok (c :: rest)

/-- Passes over a scheme. -/
def scheme : Step := fun t => do
  let rest ← expect ':' (t.dropWhile isSchemeChar)
  match t with
  | c :: _ => if c.isAlpha then return rest else throw ⟨.unexpected, t⟩
  | [] => throw ⟨.unexpected, t⟩

/-- Passes over a URI. -/
def whole : Step := fun t => do
  match ← marked '#' (← marked '?' (← hierarchy (← scheme t))) with
  | [] => return []
  | rest => throw ⟨.unexpected, rest⟩

/-! ### URIs -/

/-- Why a text is no URI, and the index of the byte where that shows. -/
structure Fault where
  /-- The reason. -/
  reason : Reason
  /-- The index. -/
  index : Nat
deriving DecidableEq, Repr

/-- The wording of a fault. -/
def Fault.message (fault : Fault) : String :=
  let complaint := match fault.reason with
    | .unexpected => "unexpected character"
    | .escape => "invalid percent-encoded octet"
    | .address => "invalid IPv6 address"
  complaint ++ " at index " ++ toString fault.index

/-- Checks that a text is a URI with its scheme. -/
def check (t : Text) : Except Fault Unit :=
  match whole t with
  | .ok _ => .ok ()
  | .error stop => .error ⟨stop.reason, t.length - stop.rest.length⟩

/-- A URI with its scheme. -/
def isValid (t : Text) : Bool :=
  match whole t with
  | .ok _ => true
  | .error _ => false

end Signpost.Uri
