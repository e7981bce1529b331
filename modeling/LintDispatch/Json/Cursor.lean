import LintDispatch.Json.Fault

/-!
# Walking over JSON text
A reader looks at the bytes that are left, takes some of them and answers with a value or a fault.
`Cursor.index` counts the bytes taken; faults are reported at it, or one further where the
offending byte has not been taken yet.
-/

namespace LintDispatch.Json

/-- A place in a text: the number of bytes before it and the bytes after it. -/
structure Cursor where
  index : Nat
  rest : Bytes
  deriving DecidableEq, Repr

/-- A computation that takes bytes. -/
abbrev Reader := EStateM Fault Cursor

/-- The blanks between the parts of a JSON text: space, line feed, tab, carriage return. -/
def isSpace (b : UInt8) : Bool := b == 32 || b == 10 || b == 9 || b == 13

/-- The byte is a decimal digit. -/
def isDigit (b : UInt8) : Bool := 48 ≤ b && b ≤ 57

/-- The bytes with a meaning of their own. -/
@[match_pattern] abbrev quote : UInt8 := 34
@[match_pattern] abbrev comma : UInt8 := 44
@[match_pattern] abbrev colon : UInt8 := 58
@[match_pattern] abbrev backslash : UInt8 := 92
@[match_pattern] abbrev openBracket : UInt8 := 91
@[match_pattern] abbrev closeBracket : UInt8 := 93
@[match_pattern] abbrev openBrace : UInt8 := 123
@[match_pattern] abbrev closeBrace : UInt8 := 125

/-- The cursor past the bytes of a class that come next. -/
def Cursor.skip (p : UInt8 → Bool) (c : Cursor) : Cursor :=
  ⟨c.index + (c.rest.takeWhile p).length, c.rest.dropWhile p⟩

/-- The next byte, which stays where it is. -/
def peek : Reader (Option UInt8) := fun c => .ok c.rest.head? c

/-- Takes one byte. -/
def take : Reader Unit := fun c =>
  match c.rest with
  | [] => .ok () c
  | _ :: rest => .ok () ⟨c.index + 1, rest⟩

/-- Passes over blanks and looks at the next byte. -/
def peekToken : Reader (Option UInt8) := fun c =>
  let c := c.skip isSpace
  .ok c.rest.head? c

/-- The digits that come next. -/
def digits : Reader Bytes := fun c => .ok (c.rest.takeWhile isDigit) (c.skip isDigit)

/-- A fault at the cursor. -/
def fail {α : Type} (what : Complaint) : Reader α := fun c => .error ⟨what, some c.index⟩ c

/-- A fault at the byte that has not been taken yet. -/
def failNext {α : Type} (what : Complaint) : Reader α := fun c =>
  .error ⟨what, some (if c.rest.isEmpty then c.index else c.index + 1)⟩ c

/-- A fault without a place. -/
def failLate {α : Type} (what : Complaint) : Reader α := fun c => .error ⟨what, none⟩ c

/-- The next byte after blanks; a value must begin here. -/
def peekValue : Reader UInt8 := do
  match ← peekToken with
  | some b => return b
  | none => failNext .endInValue

/-- Takes the rest of a word whose first letter has been taken. -/
def word : Bytes → Reader Unit
  | [] => return ()
  | b :: bs => do
    match ← peek with
    | none => fail .endInValue
    | some b' =>
      take
      if b' == b then word bs else fail .expectedIdent

/-- The words after their first letters: null, true, false. -/
def restOfNull : Bytes := [117, 108, 108]
def restOfTrue : Bytes := [114, 117, 101]
def restOfFalse : Bytes := [97, 108, 115, 101]

/-- Runs `body` and then `close`, which always runs. The fault of `body` counts more than that of
`close`, and a fault without a place gets the one reached in the end. -/
def enclosed {α : Type} (body : Reader α) (close : Reader Unit) : Reader α := fun c =>
  let place (f : Fault) (c : Cursor) : Fault := { f with index := f.index.or (some c.index) }
  match body c with
  | .ok a c =>
    match close c with
    | .ok _ c => .ok a c
    | .error f c => .error (place f c) c
  | .error f c =>
    match close c with
    | .ok _ c => .error (place f c) c
    | .error _ c => .error (place f c) c

end LintDispatch.Json
