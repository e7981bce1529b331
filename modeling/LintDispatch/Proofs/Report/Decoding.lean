import LintDispatch.Proofs.Report.Writing

/-!
# What a report says
The issues of a report are fixed by its files alone. Every spelling of the report tells of them: the
keys may stand in any order, others may stand in between, and what may be left out may be left out
(`issues_of_spelling`).
-/

namespace LintDispatch.Report

open Json

/-- Whichever spelling of a report is chosen, and every report has one, an issue is told for every
message, file by file. -/
theorem issues_of_spelling (fs : List File) : (∃ t, ReportText fs t) ∧
    ∀ t, ReportText fs t → issues t = .ok (fs.flatMap fun f => f.messages.map fun m : Message => {
      path := Bytes.ofString f.path
      ruleId := m.ruleId
      severity :=
        if m.fatal = true ∨ m.severity = 2 then .error
        else if m.severity = 1 then .warning
        else .info
      message := m.message
      line := m.line.getD 1
      column := m.column.getD 1
      endLine := m.endLine
      endColumn := m.endColumn }) := by
  refine ⟨⟨write fs, reportText_write fs⟩, fun t h => ?_⟩
  rw [issues_of_reportText h]
  congr 2
  funext f
  refine List.map_congr_left fun m _ => ?_
  simp only [Message.issue, Message.level, Bool.or_eq_true, beq_iff_eq]

/-- A message that leaves out most of its keys. -/
def reorderedMessage : Value := .object [("message", .string "m"), ("severity", .nat 1)]

/-- A report about one file whose path comes last, after a key that nobody asked for. -/
def reordered : Value := .list [.object [("extra", .null), ("messages", .list [reorderedMessage]),
  ("filePath", .string "a.js")]]

theorem messageText_reordered (level : Nat) :
    MessageText { severity := 1, message := "m" } (utf8 (reorderedMessage.pretty level)) := by
  have hmessage : StringText "m" (utf8 ((Value.string "m").pretty (level + 1))) :=
    stringText_writeString "m"
  have hseverity : NatText 1 (utf8 ((Value.nat 1).pretty (level + 1))) := natText_nat 1
  refine ⟨_, ⟨?_, ?_, ?_, ?_⟩, bracketed_pretty level _⟩
  · simpa [Message.entries] using ⟨hmessage, hseverity⟩
  · simp [Message.entries]
  · simp [Message.entries, known]
  · simp [Message.entries, known]

theorem reportText_reordered : ReportText [⟨"a.js", [{ severity := 1, message := "m" }]⟩]
    (utf8 (reordered.pretty 0)) := by
  refine padded_of_item (listText_pretty (.cons ?_ .nil))
  have hextra : IsValue (utf8 (Value.null.pretty 2)) := .null
  have hmessages : ListText MessageText [{ severity := 1, message := "m" }]
      (utf8 ((Value.list [reorderedMessage]).pretty 2)) :=
    listText_pretty (.cons (messageText_reordered 3) .nil)
  have hpath : StringText "a.js" (utf8 ((Value.string "a.js").pretty 2)) :=
    stringText_writeString "a.js"
  refine ⟨_, ⟨?_, ?_, by decide, ?_⟩, bracketed_pretty 1 _⟩
  · simpa [File.entries] using ⟨hmessages, hpath⟩
  · simpa [File.entries] using hextra
  · simp [File.entries, known]

/-- The message of such a report is told of at the first place of its file. -/
theorem issues_reordered :
    ReportText [⟨"a.js", [{ severity := 1, message := "m" }]⟩] (utf8 (reordered.pretty 0)) ∧
    issues (utf8 (reordered.pretty 0)) = .ok [{
      path := Bytes.ofString "a.js"
      severity := .warning
      message := "m"
      line := 1
      column := 1 }] :=
  ⟨reportText_reordered, (issues_of_spelling _).2 _ reportText_reordered⟩

end LintDispatch.Report
