import Signpost.Text.Basic

/-!
# Digits

Numbers are read from digits in any base up to sixteen, with letters of either case, and
bytes are written in two upper-case hexadecimal digits.
-/

namespace Signpost.Digits

/-- The value of a digit. -/
def value? (c : Char) : Option Nat :=
  if c.isDigit then some (c.toNat - '0'.toNat)
  else if 'a' ≤ c && c ≤ 'f' then some (c.toNat - 'a'.toNat + 10)
  else if 'A' ≤ c && c ≤ 'F' then some (c.toNat - 'A'.toNat + 10)
  else none

/-- A digit of a base. -/
def isOf (base : Nat) (c : Char) : Bool :=
  (value? c).any (· < base)

/-- The number that digits of a base denote. -/
def number (base : Nat) (t : Text) : Nat :=
  t.foldl (fun n c => n * base + (value? c).getD 0) 0

/-- The number that a text denotes, if it consists of digits of a base, of at least one. -/
def natural? (base : Nat) (t : Text) : Option Nat :=
  if t.isEmpty || !t.all (isOf base) then none else some (number base t)

/-- The upper-case hexadecimal digit of a number below sixteen. -/
def upper (n : Nat) : Char :=
  (Nat.digitChar n).toUpper

/-- A byte in two hexadecimal digits. -/
def ofByte (b : UInt8) : Text :=
  [upper (b.toNat / 16), upper (b.toNat % 16)]

end Signpost.Digits
