import Gateway.Binary64.Basic

/-!
# The shortest decimal of a binary number

Every finite number has an interval of reals that round to it. Of the decimals `c · 10 ^ k` in that
interval those with the largest `k` have the fewest digits, and of these the one nearest to the number
is its shortest decimal. On the grid of one `k` only the two neighbours of the number can be nearest,
so the search looks at two points of each grid, from coarse grids to fine ones.

`Layout.write` turns digits and exponent into a text; where it goes over to the scientific form is a
matter of the format that uses it.
-/

namespace Gateway.Binary64

/-- The interval of the reals that round to a finite number, in units of `2 ^ -1076`. -/
structure Interval where
  low : Nat
  value : Nat
  high : Nat
  /-- The two ends round to the number, too. -/
  closed : Bool
deriving DecidableEq, Repr

/-- The unit of an interval is this part of one. -/
def Interval.unit : Nat := Nat.pow 2 1076

/-- The interval of a number: half a step to either side, and a quarter step below a power of two,
where the steps become half as long. The ends round to the number with the even significand. -/
def interval (magnitude : Nat) : Interval :=
  let (m, e) := significand magnitude
  let below := if m = fractionSteps && 0 < e then 1 else 2
  let step := Nat.pow 2 e
  ⟨(4 * m - below) * step, 4 * m * step, (4 * m + 2) * step, m % 2 == 0⟩

/-- A decimal: a whole number times a power of ten. -/
structure Decimal where
  digits : Nat
  exponent : Int
deriving DecidableEq, Repr

namespace Interval

/-- The point `c` of the grid of `10 ^ k` lies in the interval. -/
def holds (i : Interval) (k : Int) (c : Nat) : Bool :=
  let point := c * Nat.pow 10 k.toNat * unit
  let low := i.low * Nat.pow 10 (-k).toNat
  let high := i.high * Nat.pow 10 (-k).toNat
  if i.closed then low ≤ point && point ≤ high else low < point && point < high

/-- The point of the grid of `10 ^ k` that is in the interval and nearest to the number, if one is; of
two that are equally near the even one. -/
def gridPoint? (i : Interval) (k : Int) : Option Nat :=
  let step := Nat.pow 10 k.toNat * unit
  let value := i.value * Nat.pow 10 (-k).toNat
  let c := value / step
  let upper := step * (2 * c + 1) < 2 * value || (step * (2 * c + 1) == 2 * value && c % 2 == 1)
  match i.holds k c, i.holds k (c + 1) with
  | true, true => some (if upper then c + 1 else c)
  | true, false => some c
  | false, true => some (c + 1)
  | false, false => none

/-- A power of ten above every point of the interval. -/
def exponentAbove (i : Interval) : Int :=
  let bits : Int := (Nat.log2 i.value : Int) - 1075
  -- The decimal logarithm of two lies between `0.30102` and `0.30103`.
  if 0 ≤ bits then bits * 30103 / 100000 + 1 else 1 - (-bits) * 30102 / 100000

/-- Look for a point on the grids from `10 ^ k` on. -/
def search (i : Interval) : Nat → Int → Decimal
  | 0, k => ⟨0, k⟩
  | grids + 1, k =>
    match i.gridPoint? k with
    | some c => ⟨c, k⟩
    | none => search i grids (k - 1)

end Interval

/-- **The shortest decimal of a finite number** that is not zero. Seventeen digits always suffice, and
the first grid is at most a few powers of ten too coarse. -/
def shortest (magnitude : Nat) : Decimal :=
  let i := interval magnitude
  i.search 25 i.exponentAbove

/-! ## Texts -/

/-- How a format lays out the digits of a number. -/
structure Layout where
  /-- The least decimal exponent that is written without an exponent. -/
  leastPlain : Int
  /-- The least decimal exponent above those that are written without an exponent. -/
  leastScientific : Int

/-- The digits of a decimal with a point, and an exponent where the layout asks for one. -/
def Layout.write (l : Layout) (d : Decimal) : List Char :=
  let digits := Nat.toDigits 10 d.digits
  let exponent := d.exponent + digits.length - 1
  if l.leastPlain ≤ exponent && exponent < l.leastScientific then
    -- As in `1200.0`, `12.5` and `0.0125`.
    if 0 ≤ d.exponent then digits ++ List.replicate d.exponent.toNat '0' ++ ['.', '0']
    else if 0 ≤ exponent then
      digits.take (exponent.toNat + 1) ++ '.' :: digits.drop (exponent.toNat + 1)
    else '0' :: '.' :: (List.replicate (-exponent - 1).toNat '0' ++ digits)
  else
    -- As in `1e+16` and `1.25e-7`.
    let fraction := if digits.length ≤ 1 then [] else '.' :: digits.drop 1
    let sign := if exponent < 0 then '-' else '+'
    digits.take 1 ++ fraction ++ 'e' :: sign :: Nat.toDigits 10 exponent.natAbs

/-- The text of a finite number in a layout. -/
def Layout.text (l : Layout) (x : Binary64) : List Char :=
  let sign := if x.negative then ['-'] else []
  sign ++ if x.isZero then ['0', '.', '0'] else l.write (shortest x.magnitude)

end Gateway.Binary64
