import LintDispatch.Failure
import LintDispatch.Issue

/-!
# Reports
The report that a linter writes: a JSON list with an object per file, each with its messages. Every
message becomes an issue, in the order of the report. A report of blanks alone holds no issues.
-/

namespace LintDispatch

/-- A message of a report. -/
structure Report.Message where
  ruleId : Option String := none
  severity : UInt8 := 0
  /-- The file could not be linted at all. -/
  fatal : Bool := false
  message : String
  line : Option UInt32 := none
  column : Option UInt32 := none
  endLine : Option UInt32 := none
  endColumn : Option UInt32 := none
  deriving DecidableEq, Repr, Inhabited

/-- The messages about one file. -/
structure Report.File where
  path : String
  messages : List Report.Message := []
  deriving DecidableEq, Repr, Inhabited

namespace Report

/-- The severity of a message: a fatal one is an error whatever its number. -/
def Message.level (m : Message) : Severity :=
  if m.fatal || m.severity == 2 then .error
  else if m.severity == 1 then .warning
  else .info

/-- The issue that a message tells of. A message without a place is about the start of the file. -/
def Message.issue (path : String) (m : Message) : Issue where
  path := Bytes.ofString path
  ruleId := m.ruleId
  severity := m.level
  message := m.message
  line := m.line.getD 1
  column := m.column.getD 1
  endLine := m.endLine
  endColumn := m.endColumn

/-- The issues of a file. -/
def File.issues (f : File) : List Issue := f.messages.map (Message.issue f.path)

/-- The fields of a message that have been read. -/
structure Message.Draft where
  ruleId : Option (Option String) := none
  severity : Option UInt8 := none
  fatal : Option Bool := none
  message : Option String := none
  line : Option (Option UInt32) := none
  column : Option (Option UInt32) := none
  endLine : Option (Option UInt32) := none
  endColumn : Option (Option UInt32) := none
  deriving DecidableEq, Repr, Inhabited

open Json in
/-- The fields of a message in JSON. -/
def Message.shape : Shape Message.Draft where
  name := "Message"
  blank := {}
  fields := [
    ⟨"ruleId", false, false, (·.ruleId.isSome), fun d => do
      return { d with ruleId := some (← optional (string "a string")) }⟩,
    ⟨"severity", false, false, (·.severity.isSome), fun d => do
      return { d with severity := some (← byte) }⟩,
    ⟨"fatal", false, false, (·.fatal.isSome), fun d => do
      return { d with fatal := some (← bool) }⟩,
    ⟨"message", true, true, (·.message.isSome), fun d => do
      return { d with message := some (← string "a string") }⟩,
    ⟨"line", false, false, (·.line.isSome), fun d => do
      return { d with line := some (← optional word32) }⟩,
    ⟨"column", false, false, (·.column.isSome), fun d => do
      return { d with column := some (← optional word32) }⟩,
    ⟨"endLine", false, false, (·.endLine.isSome), fun d => do
      return { d with endLine := some (← optional word32) }⟩,
    ⟨"endColumn", false, false, (·.endColumn.isSome), fun d => do
      return { d with endColumn := some (← optional word32) }⟩]

/-- The message with the fields that have been read; what has not been read is absent. -/
def Message.Draft.complete (d : Message.Draft) : Message where
  ruleId := d.ruleId.getD none
  severity := d.severity.getD 0
  fatal := d.fatal.getD false
  message := d.message.getD ""
  line := d.line.getD none
  column := d.column.getD none
  endLine := d.endLine.getD none
  endColumn := d.endColumn.getD none

/-- Reads a message. -/
def Message.read : Json.Reader Message := do return (← Json.record Message.shape).complete

/-- The fields of a file that have been read. -/
structure File.Draft where
  path : Option String := none
  messages : Option (List Message) := none
  deriving DecidableEq, Repr, Inhabited

open Json in
/-- The fields of a file in JSON. -/
def File.shape : Shape File.Draft where
  name := "FileReport"
  blank := {}
  fields := [
    ⟨"filePath", true, true, (·.path.isSome), fun d => do
      return { d with path := some (← string "path string") }⟩,
    ⟨"messages", false, false, (·.messages.isSome), fun d => do
      return { d with messages := some (← list Message.read) }⟩]

/-- The file with the fields that have been read. -/
def File.Draft.complete (d : File.Draft) : File := ⟨d.path.getD "", d.messages.getD []⟩

/-- Reads a file. -/
def File.read : Json.Reader File := do return (← Json.record File.shape).complete

/-- Reads the files of a report. -/
def files (text : Bytes) : Except Json.Fault (List File) := Json.readAll (Json.list File.read) text

/-- The failure that a fault in a report is. -/
def failure (text : Bytes) (f : Json.Fault) : Failure :=
  .parse ("Invalid ESLint report: " ++ f.message text)

/-- The issues of a report, in its order. -/
def issues (text : Bytes) : Except Failure (List Issue) :=
  if text.allBlank then .ok []
  else match files text with
    | .ok fs => .ok (fs.flatMap File.issues)
    | .error f => .error (failure text f)

end Report

end LintDispatch
