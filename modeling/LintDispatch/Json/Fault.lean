import LintDispatch.Decimal.Shortest
import LintDispatch.Text.Quoted

/-!
# Faults in JSON text
Why a JSON text cannot be read as the value that is wanted, in the words that are shown for it, and
the line and column it is reported at.
-/

namespace LintDispatch.Json

/-- A number: an integer between `-2 ^ 63` and `2 ^ 64 - 1`, or a double. -/
inductive Number where
  | int (n : Int)
  | float (x : Binary64)
  deriving DecidableEq, Repr, Inhabited

/-- The text of a number. -/
def Number.text : Number → String
  | .int n => toString n
  | .float x => x.text

/-- A value of the wrong kind, as far as a message describes it. -/
inductive Found where
  | null
  | bool (b : Bool)
  | number (n : Number)
  | string (s : String)
  | sequence
  | map
  deriving DecidableEq, Repr

/-- The description of a value of the wrong kind. -/
def Found.text : Found → String
  | .null => "null"
  | .bool b => "boolean `" ++ toString b ++ "`"
  | .number (.int n) => "integer `" ++ toString n ++ "`"
  | .number (.float x) => "floating point `" ++ x.text ++ "`"
  | .string s => "string " ++ Text.quoted s
  | .sequence => "sequence"
  | .map => "map"

/-- What is wrong with a text. -/
inductive Complaint where
  | endInValue
  | endInString
  | endInList
  | endInObject
  | expectedIdent
  | invalidNumber
  | outOfRange
  | controlCharacter
  | invalidEscape
  | loneSurrogate
  | endOfHexEscape
  /-- The text of a string is not UTF-8: this many bytes do not belong to its valid beginning. -/
  | notUnicode (bytes : Nat)
  | expectedValue
  | keyNotString
  | expectedColon
  | expectedCommaOrBracket
  | expectedCommaOrBrace
  | trailingComma
  | trailingCharacters
  | invalidType (found : Found) (expected : String)
  | invalidValue (integer : Int) (expected : String)
  | invalidLength (read : Nat) (expected : String)
  | duplicateField (name : String)
  | missingField (name : String)
  | unknownVariant (name expected : String)
  deriving DecidableEq, Repr

/-- The wording of a complaint. -/
def Complaint.message : Complaint → String
  | endInValue => "EOF while parsing a value"
  | endInString => "EOF while parsing a string"
  | endInList => "EOF while parsing a list"
  | endInObject => "EOF while parsing an object"
  | expectedIdent => "expected ident"
  | invalidNumber => "invalid number"
  | outOfRange => "number out of range"
  | controlCharacter => "control character (\\u0000-\\u001F) found while parsing a string"
  | invalidEscape => "invalid escape"
  | loneSurrogate => "lone leading surrogate in hex escape"
  | endOfHexEscape => "unexpected end of hex escape"
  | notUnicode _ => "invalid unicode code point"
  | expectedValue => "expected value"
  | keyNotString => "key must be a string"
  | expectedColon => "expected `:`"
  | expectedCommaOrBracket => "expected `,` or `]`"
  | expectedCommaOrBrace => "expected `,` or `\x7d`"
  | trailingComma => "trailing comma"
  | trailingCharacters => "trailing characters"
  | invalidType found expected => "invalid type: " ++ found.text ++ ", expected " ++ expected
  | invalidValue n expected =>
    "invalid value: integer `" ++ toString n ++ "`, expected " ++ expected
  | invalidLength n expected => "invalid length " ++ toString n ++ ", expected " ++ expected
  | duplicateField name => "duplicate field `" ++ name ++ "`"
  | missingField name => "missing field `" ++ name ++ "`"
  | unknownVariant name expected => "unknown variant `" ++ name ++ "`, expected " ++ expected

/-- A complaint and the number of bytes read when it arose. A complaint about a whole list or object
has no place until the reader that began at its bracket gives it one. -/
structure Fault where
  what : Complaint
  index : Option Nat
  deriving DecidableEq, Repr

/-- The line, counted from one, and the bytes on it before the place with this many bytes before
it. -/
def lineColumn (text : Bytes) (index : Nat) : Nat × Nat :=
  let before := text.take index
  (1 + before.count 10, (before.reverse.takeWhile (· != 10)).length)

/-- The text of a fault found in `text`. -/
def Fault.message (f : Fault) (text : Bytes) : String :=
  let (line, column) := lineColumn text (f.index.getD 0)
  let back := match f.what with
    | .notUnicode n => n
    | _ => 0
  f.what.message ++ " at line " ++ toString line ++ " column " ++ toString (column - back)

end LintDispatch.Json
