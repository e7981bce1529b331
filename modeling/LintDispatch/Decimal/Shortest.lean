import LintDispatch.Decimal.Binary64

/-!
# The shortest decimal of a double
A double is written with the fewest digits that are read back as the same double, and among those
with the digits nearest to it. The search is exact: it goes over the decimal grids from coarse to
fine and stops at the first one with a point in the interval of numbers that round to the double.

The form is positional from `0.00001` up to sixteen digits before the point, with at least one
digit after it; every other number has one digit before the point and an exponent.
-/

namespace LintDispatch.Binary64

/-- Twice the distance from a positive double to the ends of its interval, below and above, and the
double itself, all in quarters of its last place. -/
structure Interval where
  value : Nat
  low : Nat
  high : Nat
  /-- The ends belong to the interval. -/
  closed : Bool
  /-- What a quarter of the last place is, as a fraction. -/
  unit : Nat × Nat

/-- The numbers that round to `x`. -/
def interval (x : Binary64) : Interval :=
  let v := 4 * x.significand
  let narrow := x.significand = Nat.pow 2 52 ∧ minExponent < x.exponent
  { value := v
    low := v - (if narrow then 1 else 2)
    high := v + 2
    closed := x.significand % 2 == 0
    unit := if 2 ≤ x.exponent then (Nat.pow 2 (x.exponent - 2).toNat, 1)
      else (1, Nat.pow 2 (2 - x.exponent).toNat) }

/-- The fraction `n / d` lies in the interval. -/
def Interval.contains (i : Interval) (n d : Nat) : Bool :=
  let lhs := n * i.unit.2
  let low := i.low * i.unit.1 * d
  let high := i.high * i.unit.1 * d
  if i.closed then low ≤ lhs && lhs ≤ high else low < lhs && lhs < high

/-- The point of the grid of step `10 ^ k` that stands for the double, counted in steps. -/
def gridPoint? (i : Interval) (k : Int) : Option Nat :=
  let (up, down) := if 0 ≤ k then (Nat.pow 10 k.toNat, 1) else (1, Nat.pow 10 (-k).toNat)
  let num := i.value * i.unit.1 * down
  let den := i.unit.2 * up
  let below := num / den
  let hit := fun n => 0 < n && i.contains (n * up) down
  let rest := 2 * (num % den)
  let nearer := if den < rest ∨ (rest = den ∧ below % 2 = 1) then below + 1 else below
  let farther := if nearer = below then below + 1 else below
  if hit nearer then some nearer else if hit farther then some farther else none

/-- The greatest `e` with `10 ^ e ≤ num / den`. -/
def floorLog10 (num den : Nat) : Int :=
  if den ≤ num then ((Nat.toDigits 10 (num / den)).length : Int) - 1
  else
    let guess := (Nat.toDigits 10 (den / num)).length
    if den ≤ num * Nat.pow 10 (guess - 1) then -((guess - 1 : Nat) : Int) else -(guess : Int)

/-- The first grid with a point, going from the grid of step `10 ^ k` to finer ones. -/
def firstPoint (i : Interval) (k : Int) : (grids : Nat) → Nat × Int
  | 0 => (0, 0)
  | grids + 1 =>
    match gridPoint? i k with
    | some n => (n, k)
    | none => firstPoint i (k - 1) grids

/-- The digits of a positive double and the place of the first one: `d₀.d₁d₂… * 10 ^ e`. -/
def shortest (x : Binary64) : List Char × Int :=
  let (num, den) := x.fraction
  let (n, k) := firstPoint x.interval (floorLog10 num den + 1) 20
  let digits := Nat.toDigits 10 n
  let e := k + digits.length - 1
  ((digits.reverse.dropWhile (· == '0')).reverse, e)

/-- The least and the greatest place of the first digit in positional form. -/
def leastPlace : Int := -5
def greatestPlace : Int := 15

/-- The digits with a point after the one at place 0, filled up with zeros. -/
def positional (digits : List Char) (e : Int) : List Char :=
  if e < 0 then
    '0' :: '.' :: (List.replicate (-e - 1).toNat '0' ++ digits)
  else
    let whole := e.toNat + 1
    let after := digits.drop whole
    digits.take whole ++ List.replicate (whole - digits.length) '0' ++
      '.' :: (if after.isEmpty then ['0'] else after)

/-- The digits with a point after the first one, and an exponent with its sign. -/
def scientific (digits : List Char) (e : Int) : List Char :=
  let after := digits.drop 1
  digits.take 1 ++ (if after.isEmpty then [] else '.' :: after) ++
    'e' :: (if e < 0 then '-' else '+') :: Nat.toDigits 10 e.natAbs

/-- The text of a double. -/
def text (x : Binary64) : String :=
  let sign := if x.negative then ['-'] else []
  let body :=
    if x.significand = 0 then ['0', '.', '0']
    else
      let (digits, e) := x.shortest
      if leastPlace ≤ e ∧ e ≤ greatestPlace then positional digits e else scientific digits e
  String.ofList (sign ++ body)

end LintDispatch.Binary64
