import Signpost.Decimal
import Signpost.Width

/-!
# JSON values

Messages and settings are JSON. A number is a whole number when it is written as one
and fits 64 bits, signed or not; any other numeral stands for a double. Negative zero
is one of those others, for no whole number is.

An object is the list of its members in the order of reading. A name that occurs
twice keeps its first place and takes its last value.
-/

namespace Signpost

/-- A JSON number. -/
inductive Number where
  /-- A whole number of 64 bits, signed or not. -/
  | int (n : Int)
  /-- The double that `mantissa * 10 ^ exponent` is read as, possibly negative. -/
  | real (negative : Bool) (mantissa : Nat) (exponent : Int)
deriving DecidableEq, Repr

namespace Number

/-- The number that a numeral of digits and an optional sign denotes. -/
def ofNumeral (negative : Bool) (n : Nat) : Number :=
  if negative then
    if 0 < n && n ≤ valuesOf 63 then int (-n) else real true n 0
  else if n < valuesOf 64 then int n
  else real false n 0

/-- The text of a number. -/
def text : Number → String
  | int n => toString n
  | real negative mantissa exponent =>
    (if negative then "-" else "") ++
      ((Double.ofDecimal? mantissa exponent).getD .zero).text

end Number

/-- A JSON value. -/
inductive Json where
  /-- The absent value. -/
  | null
  /-- A truth value. -/
  | bool (b : Bool)
  /-- A number. -/
  | num (n : Number)
  /-- A string. -/
  | str (s : String)
  /-- A list of values. -/
  | arr (items : List Json)
  /-- Values by name. -/
  | obj (members : List (String × Json))
deriving Repr, Inhabited

namespace Json

/-- A natural number. -/
def ofNat (n : Nat) : Json := num (.int n)

/-- A text as a string. -/
def ofText (t : List Char) : Json := str (String.ofList t)

/-- A value that may be absent. -/
def ofOption (encode : α → Json) : Option α → Json
  | none => null
  | some a => encode a

/-- A list of values. -/
def ofList (encode : α → Json) (l : List α) : Json :=
  arr (l.map encode)

/-- The member of an object with a name. -/
def get? (j : Json) (name : String) : Option Json :=
  match j with
  | obj members => members.lookup name
  | _ => none

/-- The members of an object with one more, which takes the place of an earlier one
of its name. -/
def insertMember (members : List (String × Json)) (name : String) (value : Json) :
    List (String × Json) :=
  if members.any (·.1 == name) then
    members.map fun m => if m.1 == name then (name, value) else m
  else
    members ++ [(name, value)]

end Json

end Signpost
