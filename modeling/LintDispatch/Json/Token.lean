import LintDispatch.Json.Cursor

/-!
# Strings and numbers
Reading a string decodes its escapes and checks that the result is UTF-8. Reading a number keeps
integers that fit 64 bits apart from all other numbers, which become doubles: the significand keeps
the leading digits that fit 64 bits, and further digits of the whole part count as places.
-/

namespace LintDispatch.Json

/-! ## Strings -/

/-- The byte that a letter stands for after a backslash. -/
def simpleEscape? : UInt8 → Option UInt8
  | 34 => some 34
  | 92 => some 92
  | 47 => some 47
  | 98 => some 8
  | 102 => some 12
  | 110 => some 10
  | 114 => some 13
  | 116 => some 9
  | _ => none

/-- The value of a hexadecimal digit. -/
def hexValue? (b : UInt8) : Option Nat :=
  if 48 ≤ b ∧ b ≤ 57 then some (b.toNat - 48)
  else if 65 ≤ b ∧ b ≤ 70 then some (b.toNat - 55)
  else if 97 ≤ b ∧ b ≤ 102 then some (b.toNat - 87)
  else none

/-- The value of four hexadecimal digits. -/
def hexFour? (a b c d : UInt8) : Option Nat := do
  return (((← hexValue? a) * 16 + (← hexValue? b)) * 16 + (← hexValue? c)) * 16 + (← hexValue? d)

/-- Takes four hexadecimal digits. -/
def hexFour : Reader Nat := fun c =>
  match c.rest with
  | w :: x :: y :: z :: rest =>
    let next : Cursor := ⟨c.index + 4, rest⟩
    match hexFour? w x y z with
    | some n => .ok n next
    | none => fail .invalidEscape next
  | rest => fail .endInString ⟨c.index + rest.length, []⟩

/-- Takes one given byte of the second half of a pair of escapes. -/
def pairByte (b : UInt8) : Reader Unit := do
  match ← peek with
  | none => fail .endInString
  | some b' =>
    take
    if b' == b then return () else fail .endOfHexEscape

/-- The code point is the second half of a surrogate pair. -/
def isLowSurrogate (n : Nat) : Bool := 0xDC00 ≤ n && n ≤ 0xDFFF

/-- The code point is the first half of a surrogate pair. -/
def isHighSurrogate (n : Nat) : Bool := 0xD800 ≤ n && n ≤ 0xDBFF

/-- The code point of a surrogate pair. -/
def surrogatePair (high low : Nat) : Nat := 0x10000 + (high - 0xD800) * 0x400 + (low - 0xDC00)

/-- Takes what follows a backslash and a `u`: one code point, which may need a second escape. -/
def unicodeEscape : Reader Bytes := do
  let n ← hexFour
  if isLowSurrogate n then fail .loneSurrogate
  else if isHighSurrogate n then
    pairByte backslash
    pairByte 117
    let low ← hexFour
    if isLowSurrogate low then return String.utf8EncodeChar (Char.ofNat (surrogatePair n low))
    else fail .loneSurrogate
  else return String.utf8EncodeChar (Char.ofNat n)

/-- Takes what follows a backslash. -/
def escape : Reader Bytes := do
  match ← peek with
  | none => fail .endInString
  | some b =>
    take
    match simpleEscape? b with
    | some b => return [b]
    | none => if b == 117 then unicodeEscape else fail .invalidEscape

/-- Takes a string up to its closing quote; `taken` holds the bytes so far, last one first. The
bytes that were left at first, `bound`, are an upper bound for the number of steps. -/
def stringFrom : (bound : Bytes) → (taken : Bytes) → Reader Bytes
  | [], _ => fail .endInString
  | _ :: bound, taken => do
    match ← peek with
    | none => fail .endInString
    | some b =>
      take
      if b == quote then return taken.reverse
      else if b == backslash then
        let bs ← escape
        stringFrom bound (bs.reverse ++ taken)
      else if b < 32 then fail .controlCharacter
      else stringFrom bound (b :: taken)

/-- The bytes of a string whose opening quote has been taken. -/
def stringBytes : Reader Bytes := fun c => stringFrom c.rest [] c

/-- The text of a string whose opening quote has been taken. -/
def stringBody : Reader String := do
  let bs ← stringBytes
  match Utf8.decode? bs with
  | some s => return s
  | none => fail (.notUnicode (bs.length - Utf8.validLength bs))

/-! ## Numbers -/

/-- The digits of a number without a sign. -/
structure Digits where
  whole : Bytes
  /-- The digits after a point. -/
  fraction : Option Bytes
  /-- The exponent: its sign and its digits. -/
  exponent : Option (Bool × Bytes)
  deriving DecidableEq, Repr

/-- Takes the digits after a point that has been taken; `ended` is said if the text ends there. -/
def fractionDigits (ended : Complaint) : Reader Bytes := do
  let ds ← digits
  if ds.isEmpty then
    match ← peek with
    | none => failNext ended
    | some _ => failNext .invalidNumber
  else return ds

/-- Takes the sign of an exponent, if there is one, and tells whether it is a minus. -/
def exponentSign : Reader Bool := do
  match ← peek with
  | some 43 => do take; return false
  | some 45 => do take; return true
  | _ => return false

/-- Takes the sign and the digits of an exponent whose letter has been taken. -/
def exponentDigits (ended : Complaint) : Reader (Bool × Bytes) := do
  let negative ← exponentSign
  match ← peek with
  | none => fail ended
  | some b =>
    take
    if isDigit b then return (negative, b :: (← digits)) else fail .invalidNumber

/-- Takes the digits before the point; no zero stands before another digit. -/
def wholeDigits (ended : Complaint) : Reader Bytes := do
  match ← peek with
  | none => fail ended
  | some b =>
    take
    if b == 48 then
      match ← peek with
      | some d => if isDigit d then failNext .invalidNumber else return [b]
      | none => return [b]
    else if isDigit b then return b :: (← digits)
    else fail .invalidNumber

/-- Takes the point and the digits after it, if there is a point. -/
def fraction? (ended : Complaint) : Reader (Option Bytes) := do
  match ← peek with
  | some 46 => do take; return some (← fractionDigits ended)
  | _ => return none

/-- Takes the exponent, if there is one. -/
def exponent? (ended : Complaint) : Reader (Option (Bool × Bytes)) := do
  match ← peek with
  | some 101 | some 69 => do take; return some (← exponentDigits ended)
  | _ => return none

/-- Takes a number whose sign has been taken; `ended` is said if the text ends inside it. -/
def numberDigits (ended : Complaint) : Reader Digits := do
  let whole ← wholeDigits ended
  let fraction ← fraction? ended
  let exponent ← exponent? ended
  return ⟨whole, fraction, exponent⟩

/-- The value of a digit. -/
def digitValue (b : UInt8) : Nat := b.toNat - 48

/-- Appends digits to a significand as long as it stays below `limit`: the significand and the
number of digits used. -/
def gather (limit n : Nat) : Bytes → Nat × Nat
  | [] => (n, 0)
  | d :: ds =>
    let n' := n * 10 + digitValue d
    if n' < limit then
      let (m, used) := gather limit n' ds
      (m, used + 1)
    else (n, 0)

/-- Significands stay below this. -/
def significandLimit : Nat := UInt64.size

/-- The significand and the places of the digits before the exponent. -/
def Digits.significand (d : Digits) : Nat × Int :=
  let (n, used) := gather significandLimit 0 d.whole
  let (m, used') := gather significandLimit n (d.fraction.getD [])
  (m, (d.whole.length - used : Nat) - (used' : Int))

/-- Exponents stay below this. -/
def exponentLimit : Nat := Nat.pow 2 31

/-- The number that the digits stand for. Where it is too large, the answer is the number of digits
at the end that are not needed to see that. -/
def Digits.number? (negative : Bool) (d : Digits) : Except Nat Number :=
  let (m, places) := d.significand
  let float (e : Int) : Except Nat Number :=
    match Binary64.ofDecimal? negative m e with
    | some x => .ok (.float x)
    | none => .error 0
  match d.fraction, d.exponent with
  | none, none =>
    if places ≠ 0 then float places
    else if !negative then .ok (.int m)
    else if m = 0 ∨ Nat.pow 2 63 < m then float 0
    else .ok (.int (-m))
  | _, none => float places
  | _, some (down, ds) =>
    let (e, used) := gather exponentLimit 0 ds
    if used = ds.length then float (places + if down then -(e : Int) else e)
    else if m = 0 ∨ down then .ok (.float ⟨negative, 0, Binary64.minExponent⟩)
    else .error (ds.length - used - 1)

/-- Takes the minus before a number, if there is one, and tells whether there was. -/
def minus : Reader Bool := do
  match ← peek with
  | some 45 => do take; return true
  | _ => return false

/-- Takes a number, with its sign. -/
def number : Reader Number := do
  let negative ← minus
  let d ← numberDigits .endInValue
  match d.number? negative with
  | .ok n => return n
  | .error unread => fun c => .error ⟨.outOfRange, some (c.index - unread)⟩ c

/-- The byte begins a number. -/
def startsNumber (b : UInt8) : Bool := b == 45 || isDigit b

/-- Takes a value of the wrong kind as far as needed to describe it; it begins with the byte `b`. -/
def unexpected {α : Type} (expected : String) (b : UInt8) : Reader α := do
  let found ←
    if b == 110 then do take; word restOfNull; pure Found.null
    else if b == 116 then do take; word restOfTrue; pure (Found.bool true)
    else if b == 102 then do take; word restOfFalse; pure (Found.bool false)
    else if startsNumber b then do pure (Found.number (← number))
    else if b == quote then do take; pure (Found.string (← stringBody))
    else if b == openBracket then pure Found.sequence
    else if b == openBrace then pure Found.map
    else failNext .expectedValue
  fail (.invalidType found expected)

end LintDispatch.Json
