import Signpost.Domain.Basic
import Signpost.Url.Percent

/-!
# Hosts

The host of a URL is a name or an address. Names of the web are decoded and brought into
the form that is looked up; if the last label of one is a number, the whole must be an
address in one of the many ways to write four bytes. Names of other schemes are kept as
they are.

An empty name is allowed here: a file URL has an authority and no host.
-/

namespace Signpost

/-- Why a text is not a URL. -/
inductive UrlError where
  /-- There is no scheme, and no base to complete the text. -/
  | relativeWithoutBase
  /-- The scheme demands a host. -/
  | emptyHost
  /-- The port is no number below 2 ^ 16. -/
  | invalidPort
  /-- The host looks like four bytes but is no such address. -/
  | invalidIpv4
  /-- The host in brackets is no address. -/
  | invalidIpv6
  /-- The name of the host cannot be made ASCII. -/
  | invalidDomain
  /-- A host that is kept as it is holds a character it may not. -/
  | invalidDomainCharacter
deriving DecidableEq, Repr

/-- The wording of a URL error. -/
def UrlError.message : UrlError → String
  | relativeWithoutBase => "relative URL without a base"
  | emptyHost => "empty host"
  | invalidPort => "invalid port number"
  | invalidIpv4 => "invalid IPv4 address"
  | invalidIpv6 => "invalid IPv6 address"
  | invalidDomain => "invalid international domain name"
  | invalidDomainCharacter => "invalid domain character"

/-- The host of a URL. -/
inductive Host where
  /-- A name, possibly empty. -/
  | domain (name : Text)
  /-- An address of four bytes, as one number. -/
  | ipv4 (address : Nat)
  /-- An address of eight pieces. -/
  | ipv6 (pieces : List Nat)
deriving DecidableEq, Repr

namespace Host

/-- The empty host. -/
def empty : Host := domain []

/-- The name by which a machine calls itself. -/
def localhost : Text := ['l', 'o', 'c', 'a', 'l', 'h', 'o', 's', 't']

/-! ### Four bytes -/

/-- The number that a text of digits denotes in a base; no digits denote zero. -/
def number? (base : Nat) (t : Text) : Option Nat :=
  if t.all (Digits.isOf base) then some (Digits.number base t) else none

/-- A part of an address: decimal, octal after `0`, or hexadecimal after `0x`. -/
def ipv4Part? (t : Text) : Option Nat :=
  match t with
  | [] => none
  | '0' :: 'x' :: rest => number? 16 rest
  | '0' :: 'X' :: rest => number? 16 rest
  | '0' :: c :: rest => number? 8 (c :: rest)
  | t => number? 10 t

/-- The labels of a name, without the empty one behind a final dot. -/
def labels (name : Text) : List Text :=
  let all := name.splitOn '.'
  if 1 < all.length && all.getLast? = some [] then all.dropLast else all

/-- A name whose last label is a number. -/
def endsInNumber (name : Text) : Bool :=
  match (labels name).getLast? with
  | none => false
  | some last => (!last.isEmpty && last.all Char.isDigit) || (ipv4Part? last).isSome

/-- The address that a name of up to four numbers denotes: all but the last stand for
one byte each, and the last for the remaining bytes. -/
def ipv4? (name : Text) : Option Nat := do
  let parts := labels name
  if 4 < parts.length then none
  let numbers ← parts.mapM ipv4Part?
  let last ← numbers.getLast?
  let front := numbers.dropLast
  if front.any (255 < ·) || Nat.pow 256 (4 - front.length) ≤ last then none
  return front.zipIdx.foldl (fun sum (n, i) => sum + n * Nat.pow 256 (3 - i)) last

/-- An address as four numbers with dots between them. -/
def ipv4Text (address : Nat) : Text :=
  List.intercalate ['.'] ([3, 2, 1, 0].map fun i => Nat.toDigits 10 (address / Nat.pow 256 i % 256))

/-! ### Eight pieces -/

/-- One to four hexadecimal digits. -/
def ipv6Piece? (t : Text) : Option Nat :=
  if t.isEmpty || 4 < t.length then none else number? 16 t

/-- One to three decimal digits without a leading zero, below 256. -/
def byte? (t : Text) : Option Nat := do
  if t.isEmpty || 3 < t.length || (1 < t.length && t.head? = some '0') then none
  let n ← number? 10 t
  if n < 256 then some n else none

/-- The pieces of a list of groups, of which the last may be four bytes with dots. -/
def ipv6Groups? : List Text → Option (List Nat)
  | [] => some []
  | [last] =>
    if last.contains '.' then do
      match ← (last.splitOn '.').mapM byte? with
      | [a, b, c, d] => some [a * 256 + b, c * 256 + d]
      | _ => none
    else
      (ipv6Piece? last).map fun n => [n]
  | group :: rest => do
    let n ← ipv6Piece? group
    let ns ← ipv6Groups? rest
    return n :: ns

/-- The groups of a part of an address; an empty part has none. -/
def groups (t : Text) : List Text :=
  if t.isEmpty then [] else t.splitOn ':'

/-- The parts of an address before and after the first double colon. -/
def splitDouble? : Text → Option (Text × Text)
  | [] => none
  | ':' :: ':' :: rest => some ([], rest)
  | c :: rest => (splitDouble? rest).map fun (before, after) => (c :: before, after)

/-- The pieces of an address, of which a double colon may stand for a run of
zeros. -/
def ipv6? (t : Text) : Option (List Nat) :=
  match splitDouble? t with
  | none => do
    let pieces ← ipv6Groups? (groups t)
    if pieces.length = 8 then some pieces else none
  | some (before, after) => do
    -- four bytes can only end an address
    if before.contains '.' then none
    let front ← ipv6Groups? (groups before)
    let back ← ipv6Groups? (groups after)
    let missing := 8 - (front.length + back.length)
    if missing = 0 then none
    return front ++ List.replicate missing 0 ++ back

/-- The number of zeros at the start of a list. -/
def zeros (pieces : List Nat) : Nat :=
  (pieces.takeWhile (· = 0)).length

/-- The place and length of the first longest run of at least two zeros. -/
def longestZeros (pieces : List Nat) : Option (Nat × Nat) :=
  let runs := (List.range pieces.length).map fun i => (i, zeros (pieces.drop i))
  let best := runs.foldl (fun best run => if best.2 < run.2 then run else best) (0, 0)
  if 2 ≤ best.2 then some best else none

/-- An address as hexadecimal pieces, with a double colon for the longest run of
zeros. -/
def ipv6Text (pieces : List Nat) : Text :=
  let join (pieces : List Nat) : Text := List.intercalate [':'] (pieces.map (Nat.toDigits 16))
  match longestZeros pieces with
  | none => join pieces
  | some (i, n) => join (pieces.take i) ++ [':', ':'] ++ join (pieces.drop (i + n))

/-! ### Reading and writing -/

/-- The text of a host in a URL. -/
def text : Host → Text
  | domain name => name
  | ipv4 address => ipv4Text address
  | ipv6 pieces => ['['] ++ ipv6Text pieces ++ [']']

/-- The address between brackets. -/
def bracketed (t : Text) : Except UrlError Host :=
  if t.getLast? = some ']' then
    match ipv6? t.dropLast with
    | some pieces => .ok (ipv6 pieces)
    | none => .error .invalidIpv6
  else
    .error .invalidIpv6

/-- A character that no host may hold. -/
def isForbidden (c : Char) : Bool :=
  ['\x00', '\t', '\n', '\r', ' ', '#', '/', ':', '<', '>', '?', '@', '[', '\\', ']', '^',
    '|'].contains c

/-- A character that no name of the web may hold. -/
def isForbiddenInDomain (c : Char) : Bool :=
  isForbidden c || c.toNat < 0x20 || c = '%' || c.toNat = 0x7F

/-- The host of a URL of the web. -/
def parse (t : Text) : Except UrlError Host := do
  match t with
  | '[' :: rest => bracketed rest
  | t =>
    let some decoded := Utf8.decode? (Percent.decode t) | throw .invalidDomain
    let some name := Domain.lookup? decoded | throw .invalidDomain
    if name.any isForbiddenInDomain then throw .invalidDomain
    if name.isEmpty then throw .emptyHost
    if endsInNumber name then
      match ipv4? name with
      | some address => return ipv4 address
      | none => throw .invalidIpv4
    return domain name

/-- The host of any other URL: kept as it is. -/
def parseVerbatim (t : Text) : Except UrlError Host := do
  match t with
  | '[' :: rest => bracketed rest
  | t =>
    if t.any isForbidden then throw .invalidDomainCharacter
    return domain (Percent.encode Percent.control t)

end Host

end Signpost
