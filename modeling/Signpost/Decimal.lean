/-!
# Decimals and the doubles nearest to them

A numeral such as `0.1` is read as a double, and a double is written with the **fewest
digits** that lead back to it, the nearest of those, and with an exponent only if it is
far from one. Both directions are exact arithmetic on fractions of natural numbers; no
floating-point operation occurs.

A double is a whole number below 2 ^ 53 times a power of two, so the numbers that are
read as it fill an interval around it that reaches half-way to its neighbours. The
ends belong to the interval when the whole number is even.
-/

namespace Signpost

/-- A nonnegative fraction. -/
structure Fraction where
  /-- The numerator. -/
  num : Nat
  /-- The denominator, which is never zero in this library. -/
  den : Nat

namespace Fraction

/-- A natural number times a power of a base. -/
def scaled (n base : Nat) (exponent : Int) : Fraction :=
  match exponent with
  | .ofNat e => ⟨n * Nat.pow base e, 1⟩
  | .negSucc e => ⟨n, Nat.pow base (e + 1)⟩

/-- Whether one fraction is at most another. -/
def le (x y : Fraction) : Bool :=
  x.num * y.den ≤ y.num * x.den

/-- Whether one fraction is below another. -/
def lt (x y : Fraction) : Bool :=
  x.num * y.den < y.num * x.den

/-- The quotient of two fractions. -/
def div (x y : Fraction) : Fraction :=
  ⟨x.num * y.den, x.den * y.num⟩

/-- The product of two fractions. -/
def mul (x y : Fraction) : Fraction :=
  ⟨x.num * y.num, x.den * y.den⟩

/-- The distance of two fractions. -/
def distance (x y : Fraction) : Fraction :=
  let a := x.num * y.den
  let b := y.num * x.den
  ⟨(a - b) + (b - a), x.den * y.den⟩

/-- The greatest natural number that is not above a fraction. -/
def floor (x : Fraction) : Nat :=
  x.num / x.den

/-- The natural number nearest to a fraction; a half goes to the even one. -/
def round (x : Fraction) : Nat :=
  let q := x.num / x.den
  let r := x.num % x.den
  if 2 * r < x.den then q
  else if x.den < 2 * r then q + 1
  else if q % 2 = 0 then q else q + 1

end Fraction

/-- A nonnegative finite double: `mantissa * 2 ^ exponent`. -/
structure Double where
  /-- The whole number, at most 2 ^ 53. -/
  mantissa : Nat
  /-- The power of two. -/
  exponent : Int

namespace Double

/-- The least exponent of a double. -/
def leastExponent : Int := -1074

/-- The first of the 53 binary digits of a whole number in full: 2 ^ 52. -/
def leadingBit : Nat := 0x10000000000000

/-- The value of a double. -/
def value (x : Double) : Fraction :=
  .scaled x.mantissa 2 x.exponent

/-- The double zero. -/
def zero : Double := ⟨0, leastExponent⟩

/-- The double nearest to a fraction, as if there were no greatest one. -/
def ofFraction (v : Fraction) : Double :=
  if v.num = 0 then zero
  else
    -- one of these two powers leaves a whole part of exactly 53 binary digits
    let low : Int := (v.num.log2 : Int) - v.den.log2 - 53
    let fit := if (v.div (.scaled 1 2 low)).floor < 2 * leadingBit then low else low + 1
    let exponent := max fit leastExponent
    ⟨(v.div (.scaled 1 2 exponent)).round, exponent⟩

/-- Whether a double stays below the least number that has none: 2 ^ 1024. -/
def isFinite (x : Double) : Bool :=
  x.mantissa = 0 || (x.mantissa.log2 : Int) + x.exponent < 1024

/-- The greatest power of ten that is a finite double. -/
def greatestPower : Nat := 308

/-- The double nearest to a power of ten. -/
def powerOfTen (k : Nat) : Double :=
  ofFraction (.scaled 1 10 k)

/-- A double divided by `10 ^ k`, rounded at each step: a power beyond the greatest one
is divided by in several steps, of which at most two leave anything. -/
def shrink : Nat → Double → Nat → Double
  | 0, _, _ => zero
  | steps + 1, x, k =>
    if k ≤ greatestPower then ofFraction (x.value.div (powerOfTen k).value)
    else if x.mantissa = 0 then zero
    else shrink steps (ofFraction (x.value.div (powerOfTen greatestPower).value))
      (k - greatestPower)

/-- The double that `n * 10 ^ e` is read as, if it is not too great. Reading rounds the
digits, then the power of ten, then their product or quotient. -/
def ofDecimal? (n : Nat) (e : Int) : Option Double :=
  let digits := ofFraction ⟨n, 1⟩
  match e with
  | .ofNat k =>
    if n = 0 then some zero
    else if greatestPower < k then none
    else
      let x := ofFraction (digits.value.mul (powerOfTen k).value)
      if x.isFinite then some x else none
  | .negSucc k => some (shrink 4 digits (k + 1))

/-- Whether `n * 10 ^ e` is too great for a double. Only numerals of middling length need
a computation. -/
def overflows (n : Nat) (e : Int) : Bool :=
  let size : Int := (Nat.toDigits 10 n).length + e
  n ≠ 0 && 0 < size && (400 < size || !(ofFraction (.scaled n 10 e)).isFinite)

/-- The double nearest to `n * 10 ^ e`, if that is not too great. What is tiny beyond doubt
needs no computation. -/
def ofScaled (n : Nat) (e : Int) : Double :=
  let size : Int := (Nat.toDigits 10 n).length + e
  if size < -400 then zero else ofFraction (.scaled n 10 e)

/-- The ends of the interval of numbers that are read as a double. -/
def interval (x : Double) : Fraction × Fraction :=
  let upper := Fraction.scaled (2 * x.mantissa + 1) 2 (x.exponent - 1)
  -- below a power of two the neighbours are twice as close
  if x.mantissa = leadingBit && leastExponent < x.exponent then
    (.scaled (4 * x.mantissa - 1) 2 (x.exponent - 2), upper)
  else
    (.scaled (2 * x.mantissa - 1) 2 (x.exponent - 1), upper)

/-- Whether a fraction is read as a double. -/
def reads (x : Double) (v : Fraction) : Bool :=
  let (lower, upper) := x.interval
  if x.mantissa % 2 = 0 then lower.le v && v.le upper else lower.lt v && v.lt upper

/-- The place of the first digit of a nonzero double: the least `t` with
`x < 10 ^ t`. -/
def magnitude (x : Double) : Int :=
  let v := x.value
  let whole := v.floor
  if whole = 0 then
    match (List.range 400).find? fun j => v.den ≤ v.num * Nat.pow 10 (j + 1) with
    | some j => -(j : Int)
    | none => 0
  else
    (Nat.toDigits 10 whole).length

/-- The digits of a double on the grid of `count` digits, if that grid has a point
that is read as the double: the nearer of its two neighbours, or the even one if they are
equally near. -/
def onGrid? (x : Double) (count : Nat) : Option (Nat × Int) :=
  let v := x.value
  let exponent := x.magnitude - count
  let point (n : Nat) : Fraction := .scaled n 10 exponent
  let below := (v.div (point 1)).floor
  let above := below + 1
  match x.reads (point below), x.reads (point above) with
  | true, true =>
    let toBelow := v.distance (point below)
    let toAbove := v.distance (point above)
    if toBelow.lt toAbove || (!toAbove.lt toBelow && below % 2 = 0) then some (below, exponent)
    else some (above, exponent)
  | true, false => some (below, exponent)
  | false, true => some (above, exponent)
  | false, false => none

/-- The fewest digits that are read as a double, and the power of ten of the last
one. -/
def shortest (x : Double) : Nat × Int :=
  if x.mantissa = 0 then (0, 0)
  else ((List.range 17).findSome? fun k => x.onGrid? (k + 1)).getD (0, 0)

/-- Digits without the zeros at their end. -/
def trimZeros (t : List Char) : List Char :=
  (t.reverse.dropWhile (· = '0')).reverse

/-- A number in full, with at least one digit behind the point: `digits * 10 ^ exponent`. -/
def positional (digits : List Char) (exponent : Int) : List Char :=
  match exponent with
  | .ofNat e => digits ++ List.replicate e '0' ++ ['.', '0']
  | .negSucc e =>
    let padded := List.replicate (e + 2 - digits.length) '0' ++ digits
    let cut := padded.length - (e + 1)
    let behind := trimZeros (padded.drop cut)
    padded.take cut ++ ['.'] ++ (if behind.isEmpty then ['0'] else behind)

/-- A number with one digit before the point and an exponent, which has its sign. -/
def scientific (digits : List Char) (place : Int) : List Char :=
  let mark := if place < 0 then ['e', '-'] else ['e', '+']
  digits.take 1 ++ (if digits.length ≤ 1 then [] else '.' :: digits.drop 1) ++ mark ++
    Nat.toDigits 10 place.natAbs

/-- The places of the first digit for which a number is written in full. -/
def isPlain (place : Int) : Bool :=
  -5 ≤ place && place < 16

/-- The text of a double. -/
def text (x : Double) : String :=
  let (n, exponent) := x.shortest
  let digits := Nat.toDigits 10 n
  let place := exponent + digits.length - 1
  String.ofList
    (if isPlain place then positional digits exponent
    else scientific (trimZeros digits) place)

/-- The text of a double in full, however far from one it is. -/
def fullText (x : Double) : String :=
  let (n, exponent) := x.shortest
  String.ofList (positional (Nat.toDigits 10 n) exponent)

end Double

end Signpost
