import Signpost.Text.Basic

/-!
# Punycode

Host names are ASCII. A label with other characters is written as its ASCII
characters, a hyphen, and a code that says where the other characters go: these are
taken in the order of their code points, and each is written as the **difference** to
the one before, in a positional system whose digit weights adapt to the size of the
differences seen so far.

No loop here needs a bound from outside: the digits of a difference end because it
shrinks, and the code points to be placed are a list.
-/

namespace Signpost.Punycode

/-- The digits: twenty-six letters, then ten numerals. -/
def digit (d : Nat) : Char :=
  if d < 26 then Char.ofNat (0x61 + d) else Char.ofNat (0x30 + d - 26)

/-- The largest value of the last digit at place `k`. -/
def threshold (k bias : Nat) : Nat :=
  if k ≤ bias then 1 else if bias + 26 ≤ k then 26 else k - bias

theorem threshold_pos (k bias : Nat) : 1 ≤ threshold k bias := by
  unfold threshold
  split
  · omega
  · split <;> omega

/-- A difference scaled down for `adapt`, with the places that this took. -/
def scale (delta k : Nat) : Nat × Nat :=
  if h : 455 < delta then scale (delta / 35) (k + 36) else (delta, k)
termination_by delta
decreasing_by exact Nat.div_lt_self (by omega) (by omega)

/-- The bias for the next difference, after `count` characters were placed. -/
def adapt (delta count : Nat) (first : Bool) : Nat :=
  let damped := if first then delta / 700 else delta / 2
  let (d, k) := scale (damped + damped / count) 0
  k + 36 * d / (d + 38)

/-- The digits of a difference from place `k` on. -/
def digits (bias k q : Nat) : Text :=
  let t := threshold k bias
  if q < t then [digit q]
  else digit (t + (q - t) % (36 - t)) :: digits bias (k + 36) ((q - t) / (36 - t))
termination_by q
decreasing_by
  have h := threshold_pos k bias
  have h' := Nat.div_le_self (q - threshold k bias) (36 - threshold k bias)
  omega

/-- The state of encoding a label. -/
structure State where
  /-- The code so far. -/
  out : Text
  /-- The difference to the last character placed. -/
  delta : Nat
  /-- The bias of the next difference. -/
  bias : Nat
  /-- How many characters are placed. -/
  placed : Nat

/-- Looks at one character of the label while the code point `m` is being placed. -/
def step (basic m : Nat) (s : State) (c : Char) : State :=
  if c.toNat < m then { s with delta := s.delta + 1 }
  else if c.toNat = m then
    { out := s.out ++ digits s.bias 36 s.delta
      delta := 0
      bias := adapt s.delta (s.placed + 1) (s.placed = basic)
      placed := s.placed + 1 }
  else s

/-- Places the code points of a list, which are in increasing order and follow `n`. -/
def place (label : Text) (basic : Nat) : List Nat → Nat → State → State
  | [], _, s => s
  | m :: rest, n, s =>
    let s := { s with delta := s.delta + (m - n) * (s.placed + 1) }
    let s := label.foldl (step basic m) s
    place label basic rest (m + 1) { s with delta := s.delta + 1 }

/-- The code of a label. -/
def encode (label : Text) : Text :=
  let basic := label.filter fun c => c.toNat < 0x80
  let points := (label.map Char.toNat).filter (0x80 ≤ ·)
  let front := if basic.isEmpty then [] else basic ++ ['-']
  let start : State := ⟨front, 0, 72, basic.length⟩
  (place label basic.length (points.mergeSort.eraseDups) 0x80 start).out

/-! ### Decoding -/

/-- The value of a digit. -/
def digitValue? (c : Char) : Option Nat :=
  if c.isLower then some (c.toNat - 'a'.toNat)
  else if c.isUpper then some (c.toNat - 'A'.toNat)
  else if c.isDigit then some (c.toNat - '0'.toNat + 26)
  else none

/-- The difference at the start of a code, and what follows it: `weight` is the weight of
the digit at place `k`. -/
def difference? (bias : Nat) : Nat → Nat → Text → Option (Nat × Text)
  | _, _, [] => none
  | k, weight, c :: t => do
    let d ← digitValue? c
    let last := threshold k bias
    if d < last then return (d * weight, t)
    let (n, rest) ← difference? bias (k + 36) (weight * (36 - last)) t
    return (d * weight + n, rest)

/-- Places the characters of a code in a label: the next one is at least `n`, and is
counted from place `i` on. A code has fewer characters than digits, which bounds the
steps. -/
def unplace? : Nat → Text → Text → Nat → Nat → Nat → Option Text
  | _, [], label, _, _, _ => some label
  | 0, _, _, _, _, _ => none
  | steps + 1, code, label, n, i, bias => do
    let (delta, rest) ← difference? bias 36 1 code
    let count := label.length + 1
    let m := n + (i + delta) / count
    let place := (i + delta) % count
    if !m.isValidChar then none
    unplace? steps rest (label.insertIdx place (Char.ofNat m)) m (place + 1)
      (adapt delta count (i = 0))

/-- The label that a code stands for. -/
def decode? (code : Text) : Option Text :=
  let digits := (code.reverse.takeWhile (· != '-')).reverse
  let basic := (code.take (code.length - digits.length)).dropLast
  if code.all fun c => c.toNat < 0x80 then
    unplace? digits.length digits basic 128 0 72
  else
    none

end Signpost.Punycode
