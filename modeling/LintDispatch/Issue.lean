import LintDispatch.Json.Record
import LintDispatch.Json.Value
import LintDispatch.Path

/-!
# Issues
What a linter found: where, how severe and by which rule. An issue is written as a JSON object that
leaves out what is absent, and read back from such an object.
-/

namespace LintDispatch

/-- How severe an issue is. -/
inductive Severity where
  | error
  | warning
  | info
  deriving DecidableEq, Repr, Inhabited

namespace Severity

/-- The name of a severity. -/
def name : Severity → String
  | error => "error"
  | warning => "warning"
  | info => "info"

/-- The most severe comes first. -/
def rank : Severity → Nat
  | error => 0
  | warning => 1
  | info => 2

/-- No less severe than the other one. -/
def le (a b : Severity) : Bool := a.rank ≤ b.rank

/-- The severity with a name. -/
def ofName? (s : String) : Option Severity := [error, warning, info].find? (·.name == s)

@[simp] theorem ofName?_name (s : Severity) : ofName? s.name = some s := by
  cases s <;> rfl

/-- What a message says instead of a name. -/
def expected : String := "one of `error`, `warning`, `info`"

open Json in
/-- The name of a severity, as a string whose opening quote has been taken. -/
def readName : Reader Severity := do
  let s ← stringBody
  match ofName? s with
  | some v => return v
  | none => fail (.unknownVariant s expected)

open Json in
/-- A severity: its name, or an object that holds null under its name. -/
def read : Reader Severity := do
  let b ← peekValue
  if b == quote then
    take
    readName
  else if b == openBrace then
    take
    match ← peekToken with
    | none => failNext .endInObject
    | some k =>
      if k == quote then
        take
        let v ← readName
        keyColon
        let n ← peekValue
        if n == 110 then
          take
          word restOfNull
        else unexpected "unit" n
        match ← peekToken with
        | none => fail .endInObject
        | some e =>
          if e == closeBrace then
            take
            return v
          else fail .expectedValue
      else if k == closeBrace then failNext .expectedValue
      else failNext .keyNotString
  else failNext .expectedValue

end Severity

/-- Something that a linter found. -/
structure Issue where
  path : Path
  /-- The rule that was broken. -/
  ruleId : Option String := none
  severity : Severity := .error
  message : String
  line : UInt32
  column : UInt32
  endLine : Option UInt32 := none
  endColumn : Option UInt32 := none
  deriving DecidableEq, Repr, Inhabited

namespace Issue

/-- A field that is left out if it is absent. -/
def numberField (name : String) : Option UInt32 → List (String × Json.Value)
  | some n => [(name, .nat n.toNat)]
  | none => []

/-- The issue as a JSON object. A path that is not UTF-8 cannot be written. -/
def json? (i : Issue) : Option Json.Value := do
  let path ← Utf8.decode? i.path
  return .object <|
    [("path", .string path)] ++
    (i.ruleId.map fun r => ("rule_id", Json.Value.string r)).toList ++
    [("severity", .string i.severity.name), ("message", .string i.message),
      ("line", .nat i.line.toNat), ("column", .nat i.column.toNat)] ++
    numberField "end_line" i.endLine ++ numberField "end_column" i.endColumn

/-- What is said of a path that cannot be written. -/
def unwritable : String := "path contains invalid UTF-8 characters"

/-- The fields of an issue that have been read. -/
structure Draft where
  path : Option String := none
  ruleId : Option (Option String) := none
  severity : Option Severity := none
  message : Option String := none
  line : Option UInt32 := none
  column : Option UInt32 := none
  endLine : Option (Option UInt32) := none
  endColumn : Option (Option UInt32) := none
  deriving DecidableEq, Repr, Inhabited

open Json in
/-- The fields of an issue in JSON. -/
def shape : Shape Draft where
  name := "Issue"
  blank := {}
  fields := [
    ⟨"path", true, true, (·.path.isSome), fun d => do
      return { d with path := some (← string "path string") }⟩,
    ⟨"rule_id", false, true, (·.ruleId.isSome), fun d => do
      return { d with ruleId := some (← optional (string "a string")) }⟩,
    ⟨"severity", false, false, (·.severity.isSome), fun d => do
      return { d with severity := some (← Severity.read) }⟩,
    ⟨"message", true, true, (·.message.isSome), fun d => do
      return { d with message := some (← string "a string") }⟩,
    ⟨"line", true, true, (·.line.isSome), fun d => do
      return { d with line := some (← word32) }⟩,
    ⟨"column", true, true, (·.column.isSome), fun d => do
      return { d with column := some (← word32) }⟩,
    ⟨"end_line", false, true, (·.endLine.isSome), fun d => do
      return { d with endLine := some (← optional word32) }⟩,
    ⟨"end_column", false, true, (·.endColumn.isSome), fun d => do
      return { d with endColumn := some (← optional word32) }⟩]

/-- The issue with the fields that have been read; what has not been read is absent. -/
def Draft.issue (d : Draft) : Issue where
  path := Bytes.ofString (d.path.getD "")
  ruleId := d.ruleId.getD none
  severity := d.severity.getD .error
  message := d.message.getD ""
  line := d.line.getD 0
  column := d.column.getD 0
  endLine := d.endLine.getD none
  endColumn := d.endColumn.getD none

/-- Reads an issue. -/
def read : Json.Reader Issue := do return (← Json.record shape).issue

/-- Reads a text that holds an issue. -/
def ofText (text : Bytes) : Except Json.Fault Issue := Json.readAll read text

/-- The text of an issue on one line. -/
def text? (i : Issue) : Option String := i.json?.map (·.text)

/-- The text of a list of issues over several lines. -/
def listText? (issues : List Issue) : Option String :=
  (issues.mapM json?).map fun vs => (Json.Value.list vs).prettyText

end Issue

end LintDispatch
