import LintDispatch.Json.Skip

/-!
# Typed values
Readers for the values that a report is made of: texts, truth values, unsigned integers, optional
values, lists and records. A record is written as an object with its fields in any order, or as a
list with the values of its fields in their own order.
-/

namespace LintDispatch.Json

/-- A string. -/
def string (expected : String) : Reader String := do
  let b ← peekValue
  if b == quote then do take; stringBody else unexpected expected b

/-- A truth value. -/
def bool : Reader Bool := do
  let b ← peekValue
  if b == 116 then do take; word restOfTrue; return true
  else if b == 102 then do take; word restOfFalse; return false
  else unexpected "a boolean" b

/-- An unsigned integer below `limit`. -/
def unsigned (limit : Nat) (expected : String) : Reader Nat := do
  let b ← peekValue
  if startsNumber b then
    match ← number with
    | .int n =>
      if 0 ≤ n ∧ n < limit then return n.toNat else fail (.invalidValue n expected)
    | .float x => fail (.invalidType (.number (.float x)) expected)
  else unexpected expected b

/-- An unsigned integer of eight bits. -/
def byte : Reader UInt8 := do return UInt8.ofNat (← unsigned UInt8.size "u8")

/-- An unsigned integer of 32 bits. -/
def word32 : Reader UInt32 := do return UInt32.ofNat (← unsigned UInt32.size "u32")

/-- A value that may be null. -/
def optional {α : Type} (read : Reader α) : Reader (Option α) := do
  match ← peekToken with
  | some 110 => do take; word restOfNull; return none
  | _ => return some (← read)

/-! ## Lists -/

/-- Passes over what stands before the next element of a list, and tells whether there is one. -/
def nextElement (first : Bool) : Reader Bool := do
  match ← peekToken with
  | none => failNext .endInList
  | some b =>
    if b == closeBracket then return false
    else if first then return true
    else if b == comma then
      take
      match ← peekToken with
      | none => failNext .endInValue
      | some b => if b == closeBracket then failNext .trailingComma else return true
    else failNext .expectedCommaOrBracket

/-- Takes the end of a list. -/
def listEnd : Reader Unit := do
  match ← peekToken with
  | none => failNext .endInList
  | some b =>
    if b == closeBracket then take
    else if b == comma then
      take
      match ← peekToken with
      | some b =>
        if b == closeBracket then failNext .trailingComma else failNext .trailingCharacters
      | none => failNext .trailingCharacters
    else failNext .trailingCharacters

/-- The elements of a list up to its end; `taken` holds those so far, last one first. The bytes that
were left at first, `bound`, are an upper bound for the number of elements. -/
def elementsFrom {α : Type} (read : Reader α) : (bound : Bytes) → (taken : List α) → Reader (List α)
  | [], _ => fail .endInList
  | _ :: bound, taken => do
    if ← nextElement taken.isEmpty then
      let a ← read
      elementsFrom read bound (a :: taken)
    else return taken.reverse

/-- The elements of a list whose bracket has been taken. -/
def elements {α : Type} (read : Reader α) : Reader (List α) := fun c =>
  elementsFrom read c.rest [] c

/-- A list. -/
def list {α : Type} (read : Reader α) : Reader (List α) := do
  let b ← peekValue
  if b == openBracket then do
    take
    enclosed (elements read) listEnd
  else unexpected "a sequence" b

/-! ## Records -/

/-- A field of a record whose values are collected in a `σ`. -/
structure Field (σ : Type) where
  name : String
  /-- The field must be there in an object. -/
  required : Bool := false
  /-- The field must be there in a list. -/
  positional : Bool := false
  /-- The field has been read. -/
  isSet : σ → Bool
  /-- Reads the field. -/
  read : σ → Reader σ

/-- A kind of record. -/
structure Shape (σ : Type) where
  name : String
  /-- Nothing has been read. -/
  blank : σ
  /-- The fields, in their own order. -/
  fields : List (Field σ)

variable {σ : Type}

/-- What a message says instead of a record of this shape. -/
def Shape.expected (shape : Shape σ) : String := "struct " ++ shape.name

/-- The first field that must be there in an object and is not. -/
def Shape.missing? (shape : Shape σ) (s : σ) : Option String :=
  (shape.fields.find? fun f => f.required && !f.isSet s).map (·.name)

/-- Passes over what stands before the next key of an object, and tells whether there is one. The
opening quote of the key is taken. -/
def nextKey (first : Bool) : Reader Bool := do
  match ← peekToken with
  | none => failNext .endInObject
  | some b =>
    if b == closeBrace then return false
    else if first then
      if b == quote then do take; return true else failNext .keyNotString
    else if b == comma then
      take
      match ← peekToken with
      | none => failNext .endInValue
      | some b =>
        if b == quote then do take; return true
        else if b == closeBrace then failNext .trailingComma
        else failNext .keyNotString
    else failNext .expectedCommaOrBrace

/-- Takes the end of an object. -/
def objectEnd : Reader Unit := do
  match ← peekToken with
  | none => failNext .endInObject
  | some b =>
    if b == closeBrace then take
    else if b == comma then failNext .trailingComma
    else failNext .trailingCharacters

/-- The fields of an object up to its end. Keys that the shape does not know are passed over. The
bytes that were left at first, `bound`, are an upper bound for the number of fields. -/
def objectFrom (shape : Shape σ) : (bound : Bytes) → (first : Bool) → σ → Reader σ
  | [], _, _ => fail .endInObject
  | _ :: bound, first, s => do
    if ← nextKey first then
      let key ← stringBody
      match shape.fields.find? (·.name == key) with
      | some field =>
        if field.isSet s then failLate (.duplicateField field.name)
        else
          keyColon
          let s ← field.read s
          objectFrom shape bound false s
      | none =>
        keyColon
        skipValue
        objectFrom shape bound false s
    else
      match shape.missing? s with
      | some name => failLate (.missingField name)
      | none => return s

/-- The fields of an object whose brace has been taken. -/
def object (shape : Shape σ) : Reader σ := fun c =>
  objectFrom shape c.rest true shape.blank c

/-- The fields of a record written as a list, `read` of them having been passed. -/
def positions (shape : Shape σ) : (read : Nat) → (first : Bool) → List (Field σ) → σ → Reader σ
  | _, _, [], s => return s
  | read, first, field :: fields, s => do
    if ← nextElement first then
      let s ← field.read s
      positions shape (read + 1) false fields s
    else if field.positional then
      failLate (.invalidLength read
        (shape.expected ++ " with " ++ toString shape.fields.length ++ " elements"))
    else positions shape (read + 1) first fields s

/-- A record. -/
def record (shape : Shape σ) : Reader σ := do
  let b ← peekValue
  if b == openBrace then do
    take
    enclosed (object shape) objectEnd
  else if b == openBracket then do
    take
    enclosed (positions shape 0 true shape.fields shape.blank) listEnd
  else unexpected shape.expected b

/-! ## Whole texts -/

/-- Reads a text that holds one value and nothing else but blanks. -/
def readAll {α : Type} (read : Reader α) (text : Bytes) : Except Fault α :=
  let whole : Reader α := do
    let a ← read
    match ← peekToken with
    | none => return a
    | some _ => failNext .trailingCharacters
  match whole ⟨0, text⟩ with
  | .ok a _ => .ok a
  | .error f _ => .error f

end LintDispatch.Json
