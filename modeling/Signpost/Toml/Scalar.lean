import Signpost.Decimal
import Signpost.Text.Digits
import Signpost.Toml.Basic
import Signpost.Toml.Token

/-!
# Unquoted values of TOML

Numbers, truth values and moments are written without quotes and without spaces – but for
the one space that may stand between a date and a time. So a scalar is a word, and reading
it is a question about the word as a whole. Only when a word is no scalar does it matter what
it was probably meant to be: `complaint` looks for that.
-/

namespace Signpost.Toml

/-! ### Whole numbers -/

/-- The digits of a word in which an underscore may stand between any two of them. -/
def digits? (base : Nat) (word : Text) : Option Text :=
  let groups := word.splitOn '_'
  if groups.all (fun group => !group.isEmpty && group.all (Digits.isOf base)) then
    some groups.flatten
  else
    none

/-- The digits of a decimal number, which has no zero in front. -/
def decimal? (word : Text) : Option Text := do
  let digits ← digits? 10 word
  if 1 < digits.length && digits.head? = some '0' then none else some digits

/-- A sign in front of a word, and the word behind it. -/
def signed (word : Text) : Bool × Text :=
  match word with
  | '-' :: rest => (true, rest)
  | '+' :: rest => (false, rest)
  | rest => (false, rest)

/-- A word as a whole number. Only decimal numbers have a sign. -/
def integer? (word : Text) : Option Int :=
  match word with
  | '0' :: 'x' :: rest => (digits? 16 rest).map fun d => (Digits.number 16 d : Int)
  | '0' :: 'o' :: rest => (digits? 8 rest).map fun d => (Digits.number 8 d : Int)
  | '0' :: 'b' :: rest => (digits? 2 rest).map fun d => (Digits.number 2 d : Int)
  | _ =>
    let (negative, rest) := signed word
    (decimal? rest).map fun d =>
      if negative then -(Digits.number 10 d : Int) else Digits.number 10 d

/-! ### Numbers with a fraction or an exponent -/

/-- The parts of a number: its whole part, its places, and its exponent. -/
def floatParts? (word : Text) : Option (Text × Text × Int) := do
  let (mantissa, exponent) := match word.cut? (fun c => c = 'e' || c = 'E') with
    | some (mantissa, exponent) => (mantissa, some exponent)
    | none => (word, none)
  let (whole, places) := match mantissa.cut? (· = '.') with
    | some (whole, places) => (whole, some places)
    | none => (mantissa, none)
  if exponent.isNone && places.isNone then none
  let whole ← decimal? whole
  let places ← match places with
    | some places => digits? 10 places
    | none => some []
  let exponent ← match exponent with
    | some exponent =>
      let (negative, rest) := signed exponent
      (digits? 10 rest).map fun d =>
        if negative then -(Digits.number 10 d : Int) else Digits.number 10 d
    | none => some 0
  return (whole, places, exponent)

/-- The number that a word with a fraction or an exponent stands for, or one of the two
names of what is no number. -/
def float? (word : Text) : Option Float :=
  let (negative, rest) := signed word
  if rest = ['i', 'n', 'f'] then some (.infinite negative)
  else if rest = ['n', 'a', 'n'] then some .undefined
  else
    (floatParts? rest).map fun (whole, places, exponent) =>
      .finite negative (Digits.number 10 (whole ++ places)) (exponent - places.length)

/-! ### Moments -/

/-- The number of two decimal digits. -/
def two? (a b : Char) : Option Nat :=
  if a.isDigit && b.isDigit then some (Digits.number 10 [a, b]) else none

/-- The number of days of a month. -/
def daysOf (year month : Nat) : Nat :=
  if month = 2 then
    if year % 4 = 0 && (year % 100 ≠ 0 || year % 400 = 0) then 29 else 28
  else if month = 4 || month = 6 || month = 9 || month = 11 then 30
  else 31

/-- What follows a date at the start of a word. -/
def date? : Text → Option Text
  | a :: b :: c :: d :: '-' :: e :: f :: '-' :: g :: h :: rest => do
    let century ← two? a b
    let year ← two? c d
    let month ← two? e f
    let day ← two? g h
    if 1 ≤ month && month ≤ 12 && 1 ≤ day && day ≤ daysOf (100 * century + year) month then
      some rest
    else
      none
  | _ => none

/-- What follows the seconds at the start of a word, with or without a fraction. -/
def seconds? (a b : Char) (rest : Text) : Option Text := do
  let second ← two? a b
  if 60 < second then none
  match rest with
  | '.' :: rest =>
    match rest.span Char.isDigit with
    | ([], _) => none
    | (_, rest) => some rest
  | rest => some rest

/-- What follows a time at the start of a word. The seconds may be missing. -/
def time? : Text → Option Text
  | a :: b :: ':' :: c :: d :: rest => do
    let hour ← two? a b
    let minute ← two? c d
    if 23 < hour || 59 < minute then none
    match rest with
    | ':' :: e :: f :: rest => seconds? e f rest
    | rest => some rest
  | _ => none

/-- A word that is the distance from universal time, or empty. -/
def isOffset : Text → Bool
  | [] => true
  | ['Z'] => true
  | ['z'] => true
  | [sign, a, b, ':', c, d] =>
    (sign = '+' || sign = '-') &&
      match two? a b, two? c d with
      | some hour, some minute => hour ≤ 23 && minute ≤ 59
      | _, _ => false
  | _ => false

/-- A word that is a date, a time, or both with `T` or a space between. -/
def isMoment (word : Text) : Bool :=
  match date? word with
  | some [] => true
  | some (mark :: rest) =>
    (mark = 'T' || mark = 't' || mark = ' ') &&
      match time? rest with
      | some rest => isOffset rest
      | none => false
  | none => time? word = some []

/-! ### Scalars -/

/-- The value of a word. -/
def scalar? (word : Text) : Option Toml :=
  if word = ['t', 'r', 'u', 'e'] then some (boolean true)
  else if word = ['f', 'a', 'l', 's', 'e'] then some (boolean false)
  else if isMoment word then some moment
  else ((float? word).map float).or ((integer? word).map integer)

/-! ### Words that are no scalars -/

/-- A cause and the part of a word that shows it. -/
abbrev Complaint := Cause × Extent

/-- The underscore that does not stand between two digits. -/
def strayUnderscore (word : Text) : Complaint :=
  let isDigitAt (i : Nat) : Bool := word[i]?.any (Digits.isOf 16)
  let stray := (List.range word.length).find? fun i =>
    word[i]? = some '_' && !(0 < i && isDigitAt (i - 1) && isDigitAt (i + 1))
  match stray with
  | some i => (.underscore, ⟨i, i + 1⟩)
  | none => (.unquoted, ⟨0, word.length⟩)

/-- Digits and underscores at the start of a text. -/
def digitRun (t : Text) : Text :=
  t.takeWhile fun c => c.isDigit || c = '_'

/-- What is wrong with digits from a place on, which belong to the given part of a number, if
anything is; `padded` says whether they may start with a zero. -/
def digitsComplaint? (part : String) (padded : Bool) (place : Nat) (run : Text) :
    Option Complaint :=
  let count := (run.filter Char.isDigit).length
  if count = 0 then some (.noDigits part, .at place)
  else if !padded && 1 < count && run.head? = some '0' then
    some (.leadingZero, ⟨place, place + 1⟩)
  else none

/-- What is wrong with a number that has a fraction or an exponent, from a place of its word
on. -/
def floatComplaint (word : Text) (place : Nat) : Complaint :=
  let whole := digitRun (word.drop place)
  let point := place + whole.length
  let fraction := if word[point]? = some '.' then digitRun (word.drop (point + 1)) else []
  let mark := if word[point]? = some '.' then point + 1 + fraction.length else point
  let hasExponent := word[mark]? = some 'e' || word[mark]? = some 'E'
  let hasSign := word[mark + 1]? = some '+' || word[mark + 1]? = some '-'
  let start := if hasSign then mark + 2 else mark + 1
  let exponent := if hasExponent then digitRun (word.drop start) else []
  let stop := if hasExponent then start + exponent.length else mark
  let found :=
    (digitsComplaint? "mantissa" false place whole).or
      ((if word[point]? = some '.' then
          digitsComplaint? "fraction" true (point + 1) fraction else none).or
        (if hasExponent then digitsComplaint? "exponent" true start exponent else none))
  match found with
  | some complaint => complaint
  | none =>
    if stop < word.length then (.float, ⟨stop, word.length⟩) else strayUnderscore word

/-- What is wrong with a number or a moment, from a place of its word on. -/
def numberComplaint (word : Text) (place : Nat) : Complaint :=
  let value := word.drop place
  let rest := value.dropWhile Char.isDigit
  let padded : Complaint := (.leadingZero, ⟨place, place + 1⟩)
  match rest with
  | [] => padded
  | c :: _ =>
    if c = '-' || c = ':' then (.moment, ⟨0, word.length⟩)
    else if rest.contains ' ' then (.unquoted, ⟨0, word.length⟩)
    else if rest.any fun c => c = '.' || c = 'e' || c = 'E' then floatComplaint word place
    else if c = '_' then
      if value.head? = some '0' then padded else strayUnderscore word
    else (.unquoted, ⟨0, word.length⟩)

/-- What is wrong with a number that is not decimal, whose mark is at a place of its word. -/
def radixComplaint (word : Text) (place : Nat) (mark : Char) (base : Nat) (kind : String) :
    Complaint :=
  if 0 < place then (.radixSign, ⟨0, 1⟩)
  else if word[place + 1]? ≠ some mark then
    (.radixCase (String.ofList ['0', mark]), ⟨place, place + 2⟩)
  else
    let digits := word.drop (place + 2)
    let good := digits.takeWhile fun c => c = '_' || Digits.isOf base c
    if good.length < digits.length || digits.isEmpty then
      (.digit kind, .at (place + 2 + good.length))
    else strayUnderscore word

/-- What is wrong with a word from a place on, behind its sign if that is not its start. -/
def signedComplaint (word : Text) (place : Nat) : Complaint :=
  let unquoted : Complaint := (.unquoted, ⟨0, word.length⟩)
  let meant (kind wanted : String) : Complaint :=
    if word.contains ' ' then unquoted else (.word kind wanted, ⟨0, word.length⟩)
  match word.drop place with
  | '0' :: 'x' :: _ => radixComplaint word place 'x' 16 "hexadecimal"
  | '0' :: 'X' :: _ => radixComplaint word place 'x' 16 "hexadecimal"
  | '0' :: 'o' :: _ => radixComplaint word place 'o' 8 "octal"
  | '0' :: 'O' :: _ => radixComplaint word place 'o' 8 "octal"
  | '0' :: 'b' :: _ => radixComplaint word place 'b' 2 "binary"
  | '0' :: 'B' :: _ => radixComplaint word place 'b' 2 "binary"
  | c :: _ =>
    if c.isDigit || c = '_' then numberComplaint word place
    else if c = '.' then floatComplaint word place
    else if c = 'i' || c = 'I' then meant "float" "inf"
    else if c = 'n' || c = 'N' then meant "float" "nan"
    else if 0 < place && (c = '+' || c = '-') then (.extraSign, ⟨place, place + 1⟩)
    else if place = 0 && (c = 't' || c = 'T') then meant "boolean" "true"
    else if place = 0 && (c = 'f' || c = 'F') then meant "boolean" "false"
    else unquoted
  | [] => unquoted

/-- What is wrong with a word that is no scalar. -/
def complaint (word : Text) : Complaint :=
  match word with
  | '+' :: _ => signedComplaint word 1
  | '-' :: _ => signedComplaint word 1
  | word => signedComplaint word 0

/-- Reads a token without quotes. -/
def scalar (token : Token) : Except Fault Toml :=
  match scalar? token.text with
  | some value => .ok value
  | none =>
    let (cause, part) := complaint token.text
    fail cause ⟨token.start + part.start, token.start + part.stop⟩

end Signpost.Toml
