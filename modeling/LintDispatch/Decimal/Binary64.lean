/-!
# Double-precision numbers
A finite double as a sign, a significand and an exponent of two, with rounding to nearest and ties
to even. All arithmetic is on natural numbers, so every step of it is exact before it is rounded.

`ofDecimal?` reads a significand and an exponent of ten: the significand is rounded to a double
first and then scaled, in one step as far as 308 decimal places. A number that is scaled past the
greatest double has no value.
-/

namespace LintDispatch

/-- The finite double `± significand * 2 ^ exponent`. -/
structure Binary64 where
  negative : Bool
  /-- Below `2 ^ 53`, and at least `2 ^ 52` unless the exponent is the least one. -/
  significand : Nat
  /-- From `-1074` up to `971`. -/
  exponent : Int
  deriving DecidableEq, Repr, Inhabited

namespace Binary64

/-- The least exponent. -/
def minExponent : Int := -1074
/-- The greatest exponent. -/
def maxExponent : Int := 971

/-- Zero. -/
def zero : Binary64 := ⟨false, 0, minExponent⟩

/-- The number with the other sign. -/
def neg (x : Binary64) : Binary64 := { x with negative := !x.negative }

/-- The quotient rounded to the nearest natural number, a half to the even neighbour. -/
def roundDiv (num den : Nat) : Nat :=
  let low := num / den
  let rest := 2 * (num % den)
  if den < rest ∨ (rest = den ∧ low % 2 = 1) then low + 1 else low

/-- The greatest `e` with `2 ^ e ≤ num / den`. -/
def floorLog2 (num den : Nat) : Int :=
  let e : Int := (Nat.log2 num : Int) - Nat.log2 den
  let above := if 0 ≤ e then num < den * Nat.pow 2 e.toNat else num * Nat.pow 2 (-e).toNat < den
  if above then e - 1 else e

/-- The double nearest to `num / den`, unless it is beyond the greatest one. -/
def round? (num den : Nat) : Option Binary64 :=
  if num = 0 then some zero
  else
    let q := max (floorLog2 num den - 52) minExponent
    let m := if 0 ≤ q then roundDiv num (den * Nat.pow 2 q.toNat)
      else roundDiv (num * Nat.pow 2 (-q).toNat) den
    let (m, q) := if m = Nat.pow 2 53 then (Nat.pow 2 52, q + 1) else (m, q)
    if maxExponent < q then none else some ⟨false, m, q⟩

/-- The double nearest to a natural number. -/
def ofNat? (n : Nat) : Option Binary64 := round? n 1

/-- The number as a fraction, without its sign. -/
def fraction (x : Binary64) : Nat × Nat :=
  if 0 ≤ x.exponent then (x.significand * Nat.pow 2 x.exponent.toNat, 1)
  else (x.significand, Nat.pow 2 (-x.exponent).toNat)

/-- The product, rounded. -/
def mul? (x y : Binary64) : Option Binary64 :=
  let (a, b) := x.fraction
  let (c, d) := y.fraction
  round? (a * c) (b * d)

/-- The quotient by a number that is not zero, rounded. -/
def div? (x y : Binary64) : Option Binary64 :=
  let (a, b) := x.fraction
  let (c, d) := y.fraction
  round? (a * d) (b * c)

/-- The number has no fractional part. -/
def isInteger (x : Binary64) : Bool :=
  let (a, b) := x.fraction
  a % b == 0

/-- The number lies below `n`. -/
def ltNat (x : Binary64) (n : Nat) : Bool :=
  let (a, b) := x.fraction
  if x.negative then 0 < a || 0 < n else a < n * b

/-- Powers of ten up to this one are applied in one step. -/
def maxStep : Nat := 308

/-- The number divided by a power of ten, rounded. -/
def divPower (x : Binary64) (places : Nat) : Binary64 :=
  ((ofNat? (Nat.pow 10 places)).bind x.div?).getD x

/-- The number divided by as many greatest steps as given, and then by what is left. -/
def scaleDownBy (x : Binary64) (places : Nat) : (steps : Nat) → Binary64
  | 0 => x.divPower places
  | steps + 1 =>
    if x.significand = 0 then x else scaleDownBy (x.divPower maxStep) places steps

/-- The number divided by a power of ten, one greatest step at a time. -/
def scaleDown (x : Binary64) (places : Nat) : Binary64 :=
  let steps := (places - 1) / maxStep
  x.scaleDownBy (places - maxStep * steps) steps

/-- The number multiplied by a power of ten. -/
def scaleUp? (x : Binary64) (places : Nat) : Option Binary64 :=
  if maxStep < places then (if x.significand = 0 then some x else none)
  else (ofNat? (Nat.pow 10 places)).bind x.mul?

/-- The number that a significand, written with `exponent` further places, stands for. -/
def ofDecimal? (negative : Bool) (significand : Nat) (exponent : Int) : Option Binary64 := do
  let x ← ofNat? significand
  let y ← if 0 ≤ exponent then x.scaleUp? exponent.toNat
    else some (x.scaleDown (-exponent).toNat)
  return if negative then y.neg else y

end Binary64

end LintDispatch
