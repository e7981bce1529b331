import LintDispatch.Json.Fault

/-!
# JSON values and their texts
A value is written on one line without blanks, or over several lines with two blanks for each level.
Fields are written in the order in which the object holds them. Strings escape the quote, the
backslash and the control characters, and leave every other character as it is.
-/

namespace LintDispatch.Json

/-- A JSON value. -/
inductive Value where
  | null
  | bool (b : Bool)
  | number (n : Number)
  | string (s : String)
  | list (vs : List Value)
  | object (fields : List (String × Value))
  deriving Repr, Inhabited, BEq

/-- A small hexadecimal digit. -/
def hexDigit (n : Nat) : Char := if n < 10 then Char.ofNat (48 + n) else Char.ofNat (87 + n)

/-- A character inside a string. -/
def writeChar (c : Char) : List Char :=
  if c == '"' then ['\\', '"']
  else if c == '\\' then ['\\', '\\']
  else if c == '\x08' then ['\\', 'b']
  else if c == '\x0c' then ['\\', 'f']
  else if c == '\n' then ['\\', 'n']
  else if c == '\r' then ['\\', 'r']
  else if c == '\t' then ['\\', 't']
  else if c.toNat < 0x20 then
    ['\\', 'u', '0', '0', hexDigit (c.toNat / 16), hexDigit (c.toNat % 16)]
  else [c]

/-- A string between quotes. -/
def writeString (s : String) : List Char := '"' :: s.toList.flatMap writeChar ++ ['"']

/-- The word for a truth value. -/
def writeBool (b : Bool) : List Char := if b then "true".toList else "false".toList

namespace Value

mutual

/-- The value on one line. -/
def compact : Value → List Char
  | null => "null".toList
  | bool b => writeBool b
  | number n => n.text.toList
  | string s => writeString s
  | list vs => '[' :: compactElements vs ++ [']']
  | object fields => '\x7b' :: compactFields fields ++ ['\x7d']

/-- The elements of a list on one line. -/
def compactElements : List Value → List Char
  | [] => []
  | [v] => v.compact
  | v :: vs => v.compact ++ ',' :: compactElements vs

/-- The fields of an object on one line. -/
def compactFields : List (String × Value) → List Char
  | [] => []
  | [(k, v)] => writeString k ++ ':' :: v.compact
  | (k, v) :: fields => writeString k ++ ':' :: v.compact ++ ',' :: compactFields fields

end

/-- The start of a new line at a level. -/
def lineStart (level : Nat) : List Char := '\n' :: List.replicate (2 * level) ' '

mutual

/-- The value over several lines, as it stands at a level. -/
def pretty (level : Nat) : Value → List Char
  | list [] => ['[', ']']
  | list (v :: vs) => '[' :: prettyElements (level + 1) (v :: vs) ++ lineStart level ++ [']']
  | object [] => ['\x7b', '\x7d']
  | object (f :: fs) => '\x7b' :: prettyFields (level + 1) (f :: fs) ++ lineStart level ++ ['\x7d']
  | v => v.compact

/-- The elements of a list, each on a line of its own. -/
def prettyElements (level : Nat) : List Value → List Char
  | [] => []
  | [v] => lineStart level ++ v.pretty level
  | v :: vs => lineStart level ++ v.pretty level ++ ',' :: prettyElements level vs

/-- The fields of an object, each on a line of its own. -/
def prettyFields (level : Nat) : List (String × Value) → List Char
  | [] => []
  | [(k, v)] => lineStart level ++ writeString k ++ ':' :: ' ' :: v.pretty level
  | (k, v) :: fields =>
    lineStart level ++ writeString k ++ ':' :: ' ' :: v.pretty level ++ ',' ::
      prettyFields level fields

end

/-- The text of the value on one line. -/
def text (v : Value) : String := String.ofList v.compact

/-- The text of the value over several lines. -/
def prettyText (v : Value) : String := String.ofList (v.pretty 0)

/-- A natural number. -/
def nat (n : Nat) : Value := number (.int n)

/-- A string or null. -/
def stringOrNull : Option String → Value
  | some s => string s
  | none => null

end Value

end LintDispatch.Json
