import Signpost.Json.Basic
import Signpost.Text.Digits

/-!
# Reading JSON

A reader takes a list of characters and gives back a value and what follows it.
Values nest, so the readers of a value, of the rest of an array and of the rest of an
object call each other. Each call passes at least one character, which is why a bound
of one more than the length of the input is never used up.
-/

namespace Signpost.Json

/-- White space between the tokens of JSON. -/
def isSpace (c : Char) : Bool :=
  c = ' ' || c = '\n' || c = '\r' || c = '\t'

/-- Drops white space. -/
def skipSpace (t : List Char) : List Char :=
  t.dropWhile isSpace

/-! ### Numbers -/

/-- The exponent at the start of a text: its sign and digits behind an `e`. -/
def exponent? (t : List Char) : Option (Int × List Char) :=
  let (negative, rest) := match t with
    | '-' :: rest => (true, rest)
    | '+' :: rest => (false, rest)
    | rest => (false, rest)
  match rest.span Char.isDigit with
  | ([], _) => none
  | (digits, rest) =>
    let n : Int := Digits.number 10 digits
    some (if negative then -n else n, rest)

/-- The digits behind a point at the start of a text; none when there is no point. -/
def fraction? (t : List Char) : Option (Option (List Char) × List Char) :=
  match t with
  | '.' :: rest =>
    match rest.span Char.isDigit with
    | ([], _) => none
    | (digits, rest) => some (some digits, rest)
  | rest => some (none, rest)

/-- Appends digits to a number as long as it stays below 2 ^ 64, and counts the digits
that are left. -/
def absorb (n : Nat) : List Char → Nat × Nat
  | [] => (n, 0)
  | c :: rest =>
    let m := n * 10 + (c.toNat - '0'.toNat)
    if m < valuesOf 64 then absorb m rest else (n, rest.length + 1)

/-- A number with a fraction or an exponent, unless it is too great. -/
def real? (negative : Bool) (mantissa : Nat) (exponent : Int) : Option Number :=
  if (Double.ofDecimal? mantissa exponent).isSome then some (.real negative mantissa exponent)
  else none

/-- The number at the start of a text. -/
def number? (t : List Char) : Option (Number × List Char) := do
  let (negative, t) := match t with
    | '-' :: rest => (true, rest)
    | rest => (false, rest)
  let (whole, t) := t.span Char.isDigit
  -- a zero stands alone
  if whole.isEmpty || (whole.head? = some '0' && 1 < whole.length) then none
  let (places, t) ← fraction? t
  let (wholePart, passed) := absorb 0 whole
  let (mantissa, ignored) := absorb wholePart (places.getD [])
  let shift : Int := (passed : Int) - ((places.getD []).length - ignored)
  match t with
  | c :: rest =>
    if c = 'e' || c = 'E' then
      let (e, rest) ← exponent? rest
      return (← real? negative mantissa (e + shift), rest)
  | [] => pure ()
  if places.isSome || 0 < passed then return (← real? negative mantissa shift, t)
  return (.ofNumeral negative mantissa, t)

/-! ### Strings -/

/-- The number of four hexadecimal digits. -/
def hex4? (a b c d : Char) : Option Nat :=
  Digits.natural? 16 [a, b, c, d]

/-- The character of an escape with a single letter. -/
def shortEscape? : Char → Option Char
  | '"' => some '"'
  | '\\' => some '\\'
  | '/' => some '/'
  | 'b' => some '\x08'
  | 'f' => some '\x0c'
  | 'n' => some '\n'
  | 'r' => some '\r'
  | 't' => some '\t'
  | _ => none

/-- The first half of a surrogate pair. -/
def isHighSurrogate (n : Nat) : Bool :=
  0xD800 ≤ n && n < 0xDC00

/-- The second half of a surrogate pair. -/
def isLowSurrogate (n : Nat) : Bool :=
  0xDC00 ≤ n && n < 0xE000

/-- The rest of a string behind its opening quote, and what follows it. A surrogate
must come in a pair. -/
def stringTail? : List Char → Option (List Char × List Char)
  | [] => none
  | '"' :: rest => some ([], rest)
  | '\\' :: 'u' :: a :: b :: c :: d :: '\\' :: 'u' :: a' :: b' :: c' :: d' :: rest => do
    let n ← hex4? a b c d
    if isHighSurrogate n then
      let m ← hex4? a' b' c' d'
      if isLowSurrogate m then
        let (s, rest) ← stringTail? rest
        return (Char.ofNat (0x10000 + (n - 0xD800) * 0x400 + (m - 0xDC00)) :: s, rest)
      else none
    else if isLowSurrogate n then none
    else
      let (s, rest) ← stringTail? ('\\' :: 'u' :: a' :: b' :: c' :: d' :: rest)
      return (Char.ofNat n :: s, rest)
  | '\\' :: 'u' :: a :: b :: c :: d :: rest => do
    let n ← hex4? a b c d
    if isHighSurrogate n || isLowSurrogate n then none
    let (s, rest) ← stringTail? rest
    return (Char.ofNat n :: s, rest)
  | '\\' :: c :: rest => do
    let c ← shortEscape? c
    let (s, rest) ← stringTail? rest
    return (c :: s, rest)
  | c :: rest =>
    if c.toNat < 0x20 then none
    else do
      let (s, rest) ← stringTail? rest
      return (c :: s, rest)

/-! ### Values -/

mutual

/-- The value at the start of a text. -/
def value? : Nat → List Char → Option (Json × List Char)
  | 0, _ => none
  | fuel + 1, t =>
    match skipSpace t with
    | 'n' :: 'u' :: 'l' :: 'l' :: rest => some (null, rest)
    | 't' :: 'r' :: 'u' :: 'e' :: rest => some (bool true, rest)
    | 'f' :: 'a' :: 'l' :: 's' :: 'e' :: rest => some (bool false, rest)
    | '"' :: rest => (stringTail? rest).map fun (s, rest) => (str (String.ofList s), rest)
    | '[' :: rest =>
      match skipSpace rest with
      | ']' :: rest => some (arr [], rest)
      | rest => (items? fuel rest).map fun (items, rest) => (arr items, rest)
    | '{' :: rest =>
      match skipSpace rest with
      | '}' :: rest => some (obj [], rest)
      | rest => (members? fuel [] rest).map fun (members, rest) => (obj members, rest)
    | rest => (number? rest).map fun (n, rest) => (num n, rest)

/-- The items of an array up to its closing bracket. -/
def items? : Nat → List Char → Option (List Json × List Char)
  | 0, _ => none
  | fuel + 1, t => do
    let (item, t) ← value? fuel t
    match skipSpace t with
    | ',' :: t =>
      let (items, t) ← items? fuel t
      return (item :: items, t)
    | ']' :: t => return ([item], t)
    | _ => none

/-- The members of an object up to its closing brace, after those of `before`. -/
def members? : Nat → List (String × Json) → List Char → Option (List (String × Json) × List Char)
  | 0, _, _ => none
  | fuel + 1, before, t =>
    match skipSpace t with
    | '"' :: t => do
      let (name, t) ← stringTail? t
      match skipSpace t with
      | ':' :: t =>
        let (value, t) ← value? fuel t
        let members := insertMember before (String.ofList name) value
        match skipSpace t with
        | ',' :: t => members? fuel members t
        | '}' :: t => return (members, t)
        | _ => none
      | _ => none
    | _ => none

end

/-- The value that a text spells, with nothing but white space around it. -/
def parse? (s : String) : Option Json :=
  let t := s.toList
  match value? (t.length + 1) t with
  | some (j, rest) => if (skipSpace rest).isEmpty then some j else none
  | none => none

end Signpost.Json
