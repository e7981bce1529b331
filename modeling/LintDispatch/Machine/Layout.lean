import LintDispatch.Decimal.Literal
import LintDispatch.Machine.Letters

/-!
# Layouts
How a value is laid out for output: in which base or notation, with which sign, with how many digits
and in how wide a field. A directive in a format spells a layout.
-/

namespace LintDispatch

/-- How a value is laid out. -/
structure Layout where
  left : Bool := false
  zeros : Bool := false
  plus : Bool := false
  space : Bool := false
  alternate : Bool := false
  width : Nat := 0
  precision : Option Nat := none
  deriving DecidableEq, Repr, Inhabited

namespace Layout

/-- The layout with the flag of a letter, if there is such a flag. -/
def withFlag (l : Layout) (c : Char) : Layout :=
  match c with
  | '-' => { l with left := true }
  | '0' => { l with zeros := true }
  | '+' => { l with plus := true }
  | ' ' => { l with space := true }
  | '#' => { l with alternate := true }
  | _ => l

/-- The layout with a width. A negative width sets the text to the left. -/
def withWidth (l : Layout) (n : Int) : Layout :=
  if n < 0 then { l with left := true, width := n.natAbs } else { l with width := n.natAbs }

/-- The layout with a precision. A negative one counts as none. -/
def withPrecision (l : Layout) (n : Int) : Layout :=
  { l with precision := if n < 0 then none else some n.natAbs }

/-- Fills a text with blanks up to the width. -/
def fill (l : Layout) (s : Letters) : Letters :=
  let gap := List.replicate (l.width - s.length) ' '
  if l.left then s ++ gap else gap ++ s

/-- A text, cut to the precision. -/
def text (l : Layout) (s : Letters) : Letters :=
  l.fill ((l.precision.map s.take).getD s)

/-- Fills a number up to the width: with zeros between sign and digits if that is asked for. -/
def fillNumber (l : Layout) (zeros : Bool) (sign digits : Letters) : Letters :=
  if zeros && !l.left then
    sign ++ List.replicate (l.width - sign.length - digits.length) '0' ++ digits
  else l.fill (sign ++ digits)

/-- The sign in front of a number. -/
def sign (l : Layout) (negative : Bool) : Letters :=
  if negative then ['-'] else if l.plus then ['+'] else if l.space then [' '] else []

/-- At least as many digits as the precision asks for; zero has no digits of its own. -/
def padded (l : Layout) (n : Nat) (digits : Letters) : Letters :=
  match l.precision with
  | none => digits
  | some p =>
    let digits := if n == 0 then [] else digits
    List.replicate (p - digits.length) '0' ++ digits

/-- A whole number in decimal notation, with its sign. -/
def signed (l : Layout) (n : Int) : Letters :=
  l.fillNumber (l.zeros && l.precision.isNone) (l.sign (n < 0))
    (l.padded n.natAbs (Nat.toDigits 10 n.natAbs))

/-- A whole number in the notation of a letter: octal, hexadecimal or decimal, without a sign. -/
def unsigned (l : Layout) (letter : Char) (n : Nat) : Letters :=
  let base := match letter with
    | 'o' => 8
    | 'x' | 'X' => 16
    | _ => 10
  let digits := l.padded n (Nat.toDigits base n)
  let digits := if letter == 'X' then digits.map Char.toUpper else digits
  let digits := if l.alternate && letter == 'o' && digits.head? != some '0' then '0' :: digits
    else digits
  let lead := if l.alternate && base == 16 && n != 0 then ['0', letter] else []
  l.fillNumber (l.zeros && l.precision.isNone) lead digits

/-! ## Fractions -/

/-- The digits of a whole number with a point before the last `places` of them. -/
def withPoint (l : Layout) (places n : Nat) : Letters :=
  let digits := Nat.toDigits 10 n
  let digits := List.replicate (places + 1 - digits.length) '0' ++ digits
  let cut := digits.length - places
  let part := digits.drop cut
  digits.take cut ++ (if part.isEmpty && !l.alternate then [] else ['.']) ++ part

/-- The digits without the zeros at the end of their fraction, and without a point at the end. -/
def withoutEndZeros (s : Letters) : Letters :=
  if !s.contains '.' then s
  else
    let s := (s.reverse.dropWhile (· == '0')).reverse
    if s.getLast? == some '.' then s.dropLast else s

/-- Positional notation, with `places` digits after the point. -/
def positional (l : Layout) (places num den : Nat) : Letters :=
  l.withPoint places (Binary64.roundDiv (num * Nat.pow 10 places) den)

/-- The number `num / den` scaled by a power of ten and rounded. -/
def scaledDigits (num den : Nat) (power : Int) : Nat :=
  if 0 ≤ power then Binary64.roundDiv (num * Nat.pow 10 power.toNat) den
  else Binary64.roundDiv num (den * Nat.pow 10 (-power).toNat)

/-- The greatest `e` with `10 ^ e ≤ num / den`, for a number that is not zero. -/
def floorLog10 (num den : Nat) : Int :=
  let guess : Int := (Nat.toDigits 10 num).length - (Nat.toDigits 10 den).length
  let below := if 0 ≤ guess then num < den * Nat.pow 10 guess.toNat
    else num * Nat.pow 10 (-guess).toNat < den
  if below then guess - 1 else guess

/-- The digits and the exponent of scientific notation with `places` digits after the point. -/
def scientificParts (places num den : Nat) : Nat × Int :=
  if num == 0 then (0, 0)
  else
    let e := floorLog10 num den
    let n := scaledDigits num den (places - e)
    if n == Nat.pow 10 (places + 1) then (Nat.pow 10 places, e + 1) else (n, e)

/-- An exponent with a sign and at least two digits. -/
def exponentText (letter : Char) (e : Int) : Letters :=
  let digits := Nat.toDigits 10 e.natAbs
  letter :: (if e < 0 then '-' else '+') ::
    (if digits.length < 2 then '0' :: digits else digits)

/-- Scientific notation. -/
def scientific (l : Layout) (letter : Char) (places num den : Nat) : Letters :=
  let (n, e) := scientificParts places num den
  l.withPoint places n ++ exponentText letter e

/-- The shorter of positional and scientific notation with so many digits in all. -/
def general (l : Layout) (letter : Char) (digits num den : Nat) : Letters :=
  let digits := max digits 1
  let (n, e) := scientificParts (digits - 1) num den
  let trim (s : Letters) : Letters := if l.alternate then s else withoutEndZeros s
  if -4 ≤ e ∧ e < digits then trim (l.positional ((digits : Int) - 1 - e).toNat num den)
  else trim (l.withPoint (digits - 1) n) ++ exponentText letter e

/-- Hexadecimal notation with an exponent of two. One digit stands before the point; it holds
`lead` binary places. Without a precision there are as many digits as the number needs. -/
def hexadecimal (l : Layout) (lead : Nat) (upper : Bool) (num den : Nat) : Letters :=
  let e : Int := if num == 0 then 0 else Binary64.floorLog2 num den - (lead - 1 : Nat)
  let scale (places : Nat) : Nat × Nat :=
    let p : Int := 4 * places - e
    if 0 ≤ p then (num * Nat.pow 2 p.toNat, den) else (num, den * Nat.pow 2 (-p).toNat)
  let needed := ((List.range 20).find? fun k => (scale k).1 % (scale k).2 == 0).getD 20
  let places := l.precision.getD needed
  let (a, b) := scale places
  let digits := Nat.toDigits 16 (Binary64.roundDiv a b)
  let digits := List.replicate (places + 1 - digits.length) '0' ++ digits
  let (digits, e) := if places + 1 < digits.length then (digits.dropLast, e + 4) else (digits, e)
  let cut := digits.length - places
  let part := digits.drop cut
  let s := digits.take cut ++ (if part.isEmpty && !l.alternate then [] else ['.']) ++ part ++
    'p' :: (if e < 0 then '-' else '+') :: Nat.toDigits 10 e.natAbs
  if upper then s.map Char.toUpper else s

/-- A number in the notation of a letter. `lead` is as in `hexadecimal`. -/
def fraction (l : Layout) (lead : Nat) (letter : Char) (x : Decimal.Literal) : Letters :=
  let upper := letter.isUpper
  let sign := l.sign x.negative
  let word (s : String) : Letters :=
    l.fill (sign ++ (if upper then s.toUpper else s).toList)
  match x.magnitude with
  | .infinite => word "inf"
  | .none => word "nan"
  | .finite num den =>
    let places := l.precision.getD 6
    let shown := match letter.toLower with
      | 'f' => l.positional places num den
      | 'e' => l.scientific letter places num den
      | 'g' => l.general (if upper then 'E' else 'e') places num den
      | _ => l.hexadecimal lead upper num den
    if letter.toLower == 'a' then
      l.fillNumber l.zeros (sign ++ ['0', if upper then 'X' else 'x']) shown
    else l.fillNumber l.zeros sign shown

end Layout

end LintDispatch
