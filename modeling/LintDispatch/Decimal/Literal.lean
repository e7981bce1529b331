import LintDispatch.Decimal.Binary64

/-!
# Numbers as they are written
A decimal or hexadecimal number at the front of a text, with a sign, a fraction and an exponent, is
read as an exact fraction. Rounding to a number of binary places, a half to the even neighbour,
comes after that. So what is read depends on the spelling alone, and `Rounded` on the places alone.
-/

namespace LintDispatch.Decimal

/-- How large a number is. -/
inductive Magnitude where
  /-- The fraction `num / den`. -/
  | finite (num den : Nat)
  | infinite
  | none
  deriving DecidableEq, Repr, Inhabited

/-- A number with a sign. -/
structure Literal where
  negative : Bool := false
  magnitude : Magnitude
  deriving DecidableEq, Repr, Inhabited

namespace Literal

/-- Exponents beyond this one give nothing or something infinite. -/
def exponentLimit : Nat := 20000

/-- The value of a digit of any base up to sixteen; something too large for any other character. -/
def digitValue (c : Char) : Nat :=
  if c.isDigit then c.toNat - 48
  else if 'a' ≤ c ∧ c ≤ 'f' then c.toNat - 87
  else if 'A' ≤ c ∧ c ≤ 'F' then c.toNat - 55
  else 99

/-- The number that digits spell. -/
def digitsValue (base : Nat) (s : List Char) : Nat :=
  s.foldl (fun n c => n * base + digitValue c) 0

/-- An exponent at the front: a letter, a sign and digits. -/
def exponent (letter : Char) (s : List Char) : Int × List Char :=
  match s with
  | c :: rest =>
    if c.toLower != letter then (0, s)
    else
      let (sign, body) : Int × List Char := match rest with
        | '-' :: b => (-1, b)
        | '+' :: b => (1, b)
        | b => (1, b)
      let (digits, after) := body.span Char.isDigit
      if digits.isEmpty then (0, s) else (sign * digitsValue 10 digits, after)
  | [] => (0, s)

/-- The magnitude `n * base ^ e`. -/
def scaled (n base : Nat) (e : Int) : Magnitude :=
  if n == 0 then .finite 0 1
  else if (exponentLimit : Int) < e then .infinite
  else if e < -(exponentLimit : Int) then .finite 0 1
  else if 0 ≤ e then .finite (n * Nat.pow base e.toNat) 1
  else .finite n (Nat.pow base (-e).toNat)

/-- Digits with a point among them, and an exponent, at the front of a text. The digits after the
point count `places` powers of `radix` each. -/
def mantissa (base radix places : Nat) (letter : Char) (s : List Char) :
    Option (Magnitude × List Char) :=
  let isDigit (c : Char) : Bool := digitValue c < base
  let (whole, rest) := s.span isDigit
  let (part, rest) := match rest with
    | '.' :: r => r.span isDigit
    | r => ([], r)
  let rest := if whole.isEmpty && part.isEmpty then s else rest
  if whole.isEmpty && part.isEmpty then none
  else
    let (e, rest) := exponent letter rest
    some (scaled (digitsValue base (whole ++ part)) radix (e - (places * part.length : Nat)), rest)

/-- The text begins with a word in small letters, whatever the case of its letters. -/
def dropWord? (word : String) (s : List Char) : Option (List Char) :=
  let n := word.length
  if (s.take n).map Char.toLower == word.toList then some (s.drop n) else none

/-- What may follow the word for no number: letters and digits in brackets. -/
def afterNone (s : List Char) : List Char :=
  match s with
  | '(' :: rest =>
    match rest.span fun c => c.isAlphanum || c == '_' with
    | (_, ')' :: after) => after
    | _ => s
  | _ => s

/-- The magnitude at the front of a text. -/
def magnitude? (s : List Char) : Option (Magnitude × List Char) :=
  match dropWord? "infinity" s, dropWord? "inf" s, dropWord? "nan" s with
  | some r, _, _ => some (.infinite, r)
  | none, some r, _ => some (.infinite, r)
  | none, none, some r => some (.none, afterNone r)
  | none, none, none =>
    match s with
    | '0' :: x :: rest =>
      if x == 'x' || x == 'X' then
        (mantissa 16 2 4 'p' rest).orElse fun _ => some (.finite 0 1, x :: rest)
      else mantissa 10 10 1 'e' s
    | _ => mantissa 10 10 1 'e' s

/-- The number at the front of a text, after blanks and a sign, and what follows it. -/
def read? (isBlank : Char → Bool) (s : List Char) : Option (Literal × List Char) :=
  let (negative, body) := match s.dropWhile isBlank with
    | '-' :: b => (true, b)
    | '+' :: b => (false, b)
    | b => (false, b)
  (magnitude? body).map fun (m, rest) => (⟨negative, m⟩, rest)

end Literal

/-! ## Rounding -/

/-- A way to keep numbers in binary places. -/
structure Precision where
  /-- How many places there are. -/
  places : Nat
  /-- The least and the greatest exponent of the last place. -/
  least : Int
  greatest : Int
  deriving DecidableEq, Repr, Inhabited

/-- Double precision. -/
def Precision.double : Precision := ⟨53, -1074, 971⟩

/-- Extended precision. -/
def Precision.extended : Precision := ⟨64, -16445, 16320⟩

namespace Precision

/-- The nearest number that has the places. -/
def round (p : Precision) : Magnitude → Magnitude
  | .finite num den =>
    if num = 0 then .finite 0 1
    else
      let q := max (Binary64.floorLog2 num den - (p.places - 1 : Nat)) p.least
      let m := if 0 ≤ q then Binary64.roundDiv num (den * Nat.pow 2 q.toNat)
        else Binary64.roundDiv (num * Nat.pow 2 (-q).toNat) den
      if p.greatest < q ∨ (p.greatest = q ∧ m = Nat.pow 2 p.places) then .infinite
      else if 0 ≤ q then .finite (m * Nat.pow 2 q.toNat) 1
      else .finite m (Nat.pow 2 (-q).toNat)
  | m => m

end Precision

end LintDispatch.Decimal
