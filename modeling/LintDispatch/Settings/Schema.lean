import LintDispatch.Json.Value

/-!
# The schema of settings
Which properties a settings document may have and what kind of value each of them takes. The
properties are checked in the order in which the document holds them, and the first problem is the
one reported. A number without a fractional part counts as an integer here, however it is held.
-/

namespace LintDispatch.Settings

open Json (Value Number)

/-- A kind of value. -/
inductive Kind where
  | text
  | textOrNull
  | truth
  /-- An integer from one up. -/
  | count
  | texts
  deriving DecidableEq, Repr

/-- The properties that settings may have. -/
def properties : List (String × Kind) :=
  [("$schema", .text), ("enabled", .truth), ("linter_path", .text), ("config_file", .text),
    ("rules_dir", .textOrNull), ("timeout_ms", .count), ("launcher", .textOrNull),
    ("max_command_length", .count), ("jobs", .count), ("files", .texts)]

/-- What keeps a document from being settings; `place` leads to the value, from the top. -/
inductive Problem where
  /-- The value is of none of the named types. -/
  | wrongType (value : Value) (types : String) (place : String)
  /-- The number is below one. -/
  | tooSmall (value : Value) (place : String)
  /-- Settings have no property of this name. -/
  | unknown (name : String)
  deriving Repr

/-- The wording of a problem. -/
def Problem.message : Problem → String
  | wrongType v types place => v.text ++ " is not of " ++ types ++ " at " ++ place
  | tooSmall v place => v.text ++ " is less than the minimum of 1 at " ++ place
  | unknown name => "Additional properties are not allowed ('" ++ name ++ "' was unexpected) at "

/-- The number has no fractional part. -/
def isInteger : Number → Bool
  | .int _ => true
  | .float x => x.isInteger

/-- The number is below one. -/
def belowOne : Number → Bool
  | .int n => n < 1
  | .float x => x.ltNat 1

/-- The first element of a list that is not a string. -/
def textsProblem? (place : String) : (index : Nat) → List Value → Option Problem
  | _, [] => none
  | i, .string _ :: vs => textsProblem? place (i + 1) vs
  | i, v :: _ => some (.wrongType v "type \"string\"" (place ++ "/" ++ toString i))

/-- What is wrong with a value that should be of a kind. -/
def Kind.problem? (place : String) : Kind → Value → Option Problem
  | text, .string _ => none
  | text, v => some (.wrongType v "type \"string\"" place)
  | textOrNull, .string _ => none
  | textOrNull, .null => none
  | textOrNull, v => some (.wrongType v "types \"null\", \"string\"" place)
  | truth, .bool _ => none
  | truth, v => some (.wrongType v "type \"boolean\"" place)
  | count, .number n =>
    if !isInteger n then some (.wrongType (.number n) "type \"integer\"" place)
    else if belowOne n then some (.tooSmall (.number n) place)
    else none
  | count, v => some (.wrongType v "type \"integer\"" place)
  | texts, .list vs => textsProblem? place 0 vs
  | texts, v => some (.wrongType v "type \"array\"" place)

/-- What is wrong with a property. -/
def propertyProblem? (field : String × Value) : Option Problem :=
  match properties.lookup field.1 with
  | some kind => kind.problem? ("/" ++ field.1) field.2
  | none => some (.unknown field.1)

/-- What is wrong with a document. -/
def problem? : Value → Option Problem
  | .object fields => fields.findSome? propertyProblem?
  | v => some (.wrongType v "type \"object\"" "")

end LintDispatch.Settings
