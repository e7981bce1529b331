import LintDispatch.Proofs.Json.Writing
import LintDispatch.Proofs.Report.Spelling

/-!
# Writing reports
Every report has a spelling: `Report.write` gives one, with null for what is absent
(`reportText_write`).
-/

namespace LintDispatch.Report

open Json

/-- A message as a JSON value. -/
def Message.json (m : Message) : Value := .object [
  ("ruleId", m.ruleId.elim .null .string),
  ("severity", .nat m.severity.toNat),
  ("fatal", .bool m.fatal),
  ("message", .string m.message),
  ("line", m.line.elim .null fun n => .nat n.toNat),
  ("column", m.column.elim .null fun n => .nat n.toNat),
  ("endLine", m.endLine.elim .null fun n => .nat n.toNat),
  ("endColumn", m.endColumn.elim .null fun n => .nat n.toNat)]

/-- A file as a JSON value. -/
def File.json (f : File) : Value := .object [
  ("filePath", .string f.path),
  ("messages", .list (f.messages.map Message.json))]

/-- The report on one line. -/
def write (fs : List File) : Bytes := utf8 (Value.list (fs.map File.json)).compact

theorem stringText_compact (s : String) : StringText s (utf8 (Value.string s).compact) := by
  rw [Value.compact]
  exact stringText_writeString s

theorem boolText_compact (b : Bool) : BoolText b (utf8 (Value.bool b).compact) := by
  rw [Value.compact]
  exact boolText_writeBool b

theorem messageText_json (m : Message) : MessageText m (utf8 m.json.compact) := by
  have hnames : (m.entries.map Entry.name).Nodup := by
    show ["ruleId", "severity", "fatal", "message", "line", "column", "endLine", "endColumn"].Nodup
    decide
  have hword : ∀ n : Option UInt32, NullableText (fun n => NatText n.toNat) n
      (utf8 (n.elim Value.null fun n => .nat n.toNat).compact) :=
    nullableText_elim fun n => natText_nat n.toNat
  refine ⟨_, Written.describes ?_ hnames, bracketed_compact _⟩
  refine .cons ⟨rfl, nullableText_elim stringText_compact m.ruleId⟩ <|
    .cons ⟨rfl, natText_nat m.severity.toNat⟩ <| .cons ⟨rfl, boolText_compact m.fatal⟩ <|
    .cons ⟨rfl, stringText_compact m.message⟩ <| .cons ⟨rfl, hword m.line⟩ <|
    .cons ⟨rfl, hword m.column⟩ <| .cons ⟨rfl, hword m.endLine⟩ <|
    .cons ⟨rfl, hword m.endColumn⟩ .nil

theorem fileText_json (f : File) : FileText f (utf8 f.json.compact) := by
  have hnames : (f.entries.map Entry.name).Nodup := by
    show ["filePath", "messages"].Nodup
    decide
  refine ⟨_, Written.describes ?_ hnames, bracketed_compact _⟩
  exact .cons ⟨rfl, stringText_compact f.path⟩ <|
    .cons ⟨rfl, listText_compact messageText_json f.messages⟩ .nil

/-- A report is written as one of its spellings. -/
theorem reportText_write (fs : List File) : ReportText fs (write fs) :=
  padded_of_item (listText_compact fileText_json fs)

end LintDispatch.Report
