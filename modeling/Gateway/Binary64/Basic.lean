/-!
# Binary floating point numbers

The numbers of the 64-bit binary format, kept as a sign and a *magnitude*: the position of the
absolute value in the list of all of them, which is also the number that the low 63 bits spell.
Position 0 is zero, the positions below `infinite` are the finite values in increasing order,
`infinite` is infinity, and what lies behind it is no number.

All arithmetic is exact and in natural numbers. A value is first taken as a fraction and then rounded
to the nearest position, to the even one of two that are equally near (`ofRatio`). Comparison reads the
positions alone (`order?`), so of two numbers exactly one of "less", "equal" and "greater" holds.
-/

namespace Gateway

/-- A number of the 64-bit binary format. -/
structure Binary64 where
  /-- The sign is minus. -/
  negative : Bool
  /-- The position among the absolute values. -/
  magnitude : Nat
deriving DecidableEq, Repr

namespace Binary64

/-- The position of infinity. -/
def infinite : Nat := 0x7FF0000000000000

/-- The steps between two powers of two. -/
def fractionSteps : Nat := 0x10000000000000

/-- A position behind infinity, for what is no number. -/
def nan : Binary64 := ⟨false, infinite + 0x8000000000000⟩

/-- Infinity with a sign. -/
def infinity (negative : Bool) : Binary64 := ⟨negative, infinite⟩

/-- Zero with a sign. -/
def zero (negative : Bool) : Binary64 := ⟨negative, 0⟩

def isNaN (x : Binary64) : Bool := infinite < x.magnitude

def isInfinite (x : Binary64) : Bool := x.magnitude == infinite

def isZero (x : Binary64) : Bool := x.magnitude == 0

/-- The number with the other sign. -/
def neg (x : Binary64) : Binary64 := { x with negative := !x.negative }

/-! ## Values -/

/-- The absolute value of a finite number as `(m, e)`, meaning `m · 2 ^ (e - 1074)`. -/
def significand (magnitude : Nat) : Nat × Nat :=
  let exponent := magnitude / fractionSteps
  let fraction := magnitude % fractionSteps
  if exponent = 0 then (fraction, 0) else (fractionSteps + fraction, exponent - 1)

/-- The absolute value of a finite number as a fraction. -/
def ratio (magnitude : Nat) : Nat × Nat :=
  let (m, e) := significand magnitude
  (m * Nat.pow 2 e, Nat.pow 2 1074)

/-- Divide and round to the nearest whole number, a half to the even one. -/
def roundDiv (num den : Nat) : Nat :=
  let q := num / den
  let r := num % den
  if den < 2 * r || (2 * r == den && q % 2 == 1) then q + 1 else q

/-- The exponent `e` for which `num / den` lies in the range of `m · 2 ^ (e - 1074)` with `m` below
`2 ^ 53`, and not below `2 ^ 52` unless `e` is zero. -/
def scale (num den : Nat) : Nat :=
  let shifted := num * Nat.pow 2 1074
  let guess := Nat.log2 (shifted / den)
  -- Where the subtraction stops at zero the number lies below the normal range.
  guess - 52

/-- The position nearest to a fraction. -/
def nearest (num den : Nat) : Nat :=
  let e := scale num den
  -- A significand that is rounded up to `2 ^ 53` lands on the next power of two.
  min infinite (e * fractionSteps + roundDiv (num * Nat.pow 2 1074) (den * Nat.pow 2 e))

/-- **The number nearest to a fraction**, with a sign. -/
def ofRatio (negative : Bool) (num den : Nat) : Binary64 :=
  ⟨negative, nearest num den⟩

/-- The number nearest to a whole number. -/
def ofInt (n : Int) : Binary64 :=
  ofRatio (n < 0) n.natAbs 1

/-! ## Arithmetic -/

/-- The product of two finite numbers. -/
def mul (x y : Binary64) : Binary64 :=
  let (a, b) := ratio x.magnitude
  let (c, d) := ratio y.magnitude
  ofRatio (x.negative != y.negative) (a * c) (b * d)

/-- The quotient of two finite numbers, the second of which is not zero. -/
def div (x y : Binary64) : Binary64 :=
  let (a, b) := ratio x.magnitude
  let (c, d) := ratio y.magnitude
  ofRatio (x.negative != y.negative) (a * d) (b * c)

/-! ## Order -/

/-- The position of a number on both sides of zero; the two zeros share theirs. -/
def position (x : Binary64) : Int :=
  if x.negative then -(x.magnitude : Int) else x.magnitude

/-- How two numbers compare; what is no number does not compare. -/
def order? (x y : Binary64) : Option Ordering :=
  if x.isNaN || y.isNaN then none else some (compare x.position y.position)

/-- A rounded fraction is a number. -/
theorem isNaN_ofRatio (negative : Bool) (num den : Nat) :
    (ofRatio negative num den).isNaN = false := by
  have capped : (ofRatio negative num den).magnitude ≤ infinite := Nat.min_le_left _ _
  simpa [isNaN] using capped

end Binary64

end Gateway
