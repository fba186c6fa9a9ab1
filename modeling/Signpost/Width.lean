/-!
# Whole numbers of a fixed width

Numbers that come from outside have to fit into a given number of binary digits, with or
without a sign.
-/

namespace Signpost

/-- The number of values that some binary digits can take. -/
def valuesOf (bits : Nat) : Nat :=
  Nat.pow 2 bits

/-- Whether a number fits into some binary digits without a sign. -/
def fitsUnsigned (bits : Nat) (n : Int) : Bool :=
  0 ≤ n && n < (valuesOf bits : Int)

/-- Whether a number fits into some binary digits of which the first is its sign. -/
def fitsSigned (bits : Nat) (n : Int) : Bool :=
  -(valuesOf (bits - 1) : Int) ≤ n && n < (valuesOf (bits - 1) : Int)

end Signpost
