import LintDispatch.Text.Bytes

/-!
# Letters
Command lines and the data of small programs are byte strings, but they are mostly read as text.
Here every byte is a character of its own, so patterns can be spelled as text and nothing is lost:
`bytes` undoes `ofBytes`.
-/

namespace LintDispatch

/-- A byte string, one character for each byte. -/
abbrev Letters := List Char

namespace Letters

/-- The letter of a byte. -/
def ofByte (b : UInt8) : Char := Char.ofNat b.toNat

/-- The letters of a byte string. -/
def ofBytes (b : Bytes) : Letters := b.map ofByte

/-- The byte string that the letters stand for. -/
def bytes (s : Letters) : Bytes := s.map fun c => UInt8.ofNat c.toNat

theorem toNat_ofByte (b : UInt8) : (ofByte b).toNat = b.toNat := by
  have h := b.toNat_lt
  have valid : b.toNat.isValidChar := Or.inl (by omega)
  rw [ofByte, Char.ofNat, dif_pos valid]
  rfl

/-- Nothing is lost. -/
@[simp] theorem bytes_ofBytes (b : Bytes) : bytes (ofBytes b) = b := by
  induction b with
  | nil => rfl
  | cons x xs ih =>
    have : UInt8.ofNat (ofByte x).toNat = x := by rw [toNat_ofByte]; simp
    simp_all [bytes, ofBytes]

/-- The letters of a text. -/
def ofText (s : String) : Letters := ofBytes (Bytes.ofString s)

/-- The letters of a decimal number. -/
def ofNat (n : Nat) : Letters := ofText (toString n)

/-- The letters of a decimal number. -/
def ofInt (n : Int) : Letters := ofText (toString n)

/-- A blank inside a line. -/
def isBlank (c : Char) : Bool := c == ' ' || c == '\t'

/-- A blank or the end of a line. -/
def isSpace (c : Char) : Bool := isBlank c || c == '\n' || c == '\r' || c == '\x0b' || c == '\x0c'

/-- A letter or the underscore. -/
def isNameStart (c : Char) : Bool := c.isAlpha || c == '_'

/-- A character of a name. -/
def isNameRest (c : Char) : Bool := isNameStart c || c.isDigit

/-- A name: a letter or underscore, then letters, digits and underscores. -/
def isName : Letters → Bool
  | [] => false
  | c :: s => isNameStart c && s.all isNameRest

/-- The longest beginning that is a name, and the rest. -/
def spanName (s : Letters) : Letters × Letters :=
  if (s.head?.map isNameStart).getD false then s.span isNameRest else ([], s)

/-- The value of a digit. -/
def digit (c : Char) : Nat :=
  if c.isDigit then c.toNat - 48
  else if c.isLower then c.toNat - 87
  else if c.isUpper then c.toNat - 55
  else 99

/-- The number that digits of a base spell. -/
def number (base : Nat) (s : Letters) : Nat := s.foldl (fun n c => n * base + digit c) 0

/-- The number that a text of decimal digits spells. -/
def nat? (s : Letters) : Option Nat :=
  if s.isEmpty || !s.all Char.isDigit then none else some (number 10 s)

end Letters

end LintDispatch
