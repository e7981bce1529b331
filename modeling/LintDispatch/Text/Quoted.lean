import LintDispatch.Text.Printable
import LintDispatch.Text.Utf8

/-!
# Quoted text
Messages that name a value show it between double quotes, on one line and with nothing invisible:
the usual letters for the common controls, a backslash before a quote or a backslash, the code
point in braces for any other character that cannot be seen, and two hexadecimal digits for a byte
that belongs to no character.
-/

namespace LintDispatch.Text

/-- A hexadecimal digit with capital letters, for a value below 16. -/
def upperHexDigit (n : Nat) : Char :=
  if n < 10 then Char.ofNat (0x30 + n) else Char.ofNat (0x37 + n)

/-- The number in hexadecimal, with small letters and without leading zeros. -/
def lowerHex (n : Nat) : List Char := Nat.toDigits 16 n

/-- A character between quotes. -/
def escaped (c : Char) : List Char :=
  if c == '\x00' then ['\\', '0']
  else if c == '\t' then ['\\', 't']
  else if c == '\r' then ['\\', 'r']
  else if c == '\n' then ['\\', 'n']
  else if c == '"' || c == '\\' then ['\\', c]
  else if isPrintable c then [c]
  else ['\\', 'u', '\x7b'] ++ lowerHex c.toNat ++ ['\x7d']

/-- A text between double quotes. -/
def quoted (s : String) : String :=
  String.ofList ('"' :: s.toList.flatMap escaped ++ ['"'])

/-- A piece of a path between quotes. -/
def escapedPiece : Utf8.Piece → List Char
  | .char c => escaped c
  | .broken bs => bs.flatMap fun b =>
      ['\\', 'x', upperHexDigit (b.toNat / 16), upperHexDigit (b.toNat % 16)]

/-- A path between double quotes. -/
def quotedPath (bs : Bytes) : String :=
  String.ofList ('"' :: (Utf8.pieces bs).flatMap escapedPiece ++ ['"'])

end LintDispatch.Text
