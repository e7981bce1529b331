import LintDispatch.Machine.Letters

/-!
# Whole numbers in texts
A whole number at the front of a text, after blanks and a sign. Without a fixed base the digits are
hexadecimal after `0x`, octal after a zero and decimal otherwise.
-/

namespace LintDispatch

/-- A number at the front of a text. -/
structure Numeral where
  value : Int := 0
  /-- What follows the number. -/
  rest : Letters
  /-- There was a digit. -/
  found : Bool := true
  deriving DecidableEq, Repr, Inhabited

namespace Numeral

/-- The greatest number with a sign. -/
def maxSigned : Nat := Nat.pow 2 63 - 1

/-- The greatest number without a sign. -/
def maxUnsigned : Nat := UInt64.size - 1

/-- The digits of a base at the front of a text. -/
def spanDigits (base : Nat) (s : Letters) : Letters × Letters :=
  s.span fun c => Letters.digit c.toLower < base

/-- The number of a base at the front of a text without a sign. -/
def ofDigits (base : Nat) (s : Letters) : Numeral :=
  let (digits, rest) := spanDigits base s
  ⟨Letters.number base (digits.map Char.toLower), rest, !digits.isEmpty⟩

/-- The number at the front of a text without a sign, its base known from its beginning. -/
def ofBased (s : Letters) : Numeral :=
  match s with
  | '0' :: x :: rest =>
    if x != 'x' && x != 'X' then ofDigits 8 s
    else
      let n := ofDigits 16 rest
      if n.found then n else ⟨0, x :: rest, true⟩
  | '0' :: rest => ⟨0, rest, true⟩
  | s => ofDigits 10 s

/-- The number at the front of a text; its base is ten if `decimal` says so. -/
def read (decimal : Bool) (s : Letters) : Numeral :=
  let (negative, body) := match s.dropWhile Letters.isSpace with
    | '-' :: b => (true, b)
    | '+' :: b => (false, b)
    | b => (false, b)
  let n := if decimal then ofDigits 10 body else ofBased body
  if !n.found then ⟨0, s, false⟩ else if negative then { n with value := -n.value } else n

/-- The number fits in 64 bits with a sign. -/
def fits (n : Numeral) : Bool := -(maxSigned : Int) - 1 ≤ n.value && n.value ≤ maxSigned

/-- The value, or the nearest one that fits in 64 bits with a sign. -/
def clamped (n : Numeral) : Int := max (-(maxSigned : Int) - 1) (min n.value maxSigned)

end Numeral

end LintDispatch
