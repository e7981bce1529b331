import LintDispatch.Proofs.Json.Records
import LintDispatch.Report

/-!
# Spellings of reports
A report is a list of objects, one for each file, with a list of objects for its messages. Only the
path of a file and the text of a message have to be there. What is absent or null counts as it does
for a linter that leaves it out, and keys that nobody asked for are ignored.

`issues_of_reportText` says that every spelling of a report is accepted, and that the issues are
those of its files in order.
-/

namespace LintDispatch.Report

open Json

/-- How the fields of a message are written. -/
def Message.entries (m : Message) : List Entry := [
  ⟨"ruleId", NullableText StringText m.ruleId, m.ruleId = none⟩,
  ⟨"severity", NatText m.severity.toNat, m.severity = 0⟩,
  ⟨"fatal", BoolText m.fatal, m.fatal = false⟩,
  ⟨"message", StringText m.message, False⟩,
  ⟨"line", NullableText (fun n => NatText n.toNat) m.line, m.line = none⟩,
  ⟨"column", NullableText (fun n => NatText n.toNat) m.column, m.column = none⟩,
  ⟨"endLine", NullableText (fun n => NatText n.toNat) m.endLine, m.endLine = none⟩,
  ⟨"endColumn", NullableText (fun n => NatText n.toNat) m.endColumn, m.endColumn = none⟩]

/-- The spellings of a message. -/
def MessageText (m : Message) : Bytes → Prop := RecordText m.entries

/-- How the fields of a file are written. -/
def File.entries (f : File) : List Entry := [
  ⟨"filePath", StringText f.path, False⟩,
  ⟨"messages", ListText MessageText f.messages, f.messages = []⟩]

/-- The spellings of a file with its messages. -/
def FileText (f : File) : Bytes → Prop := RecordText f.entries

/-- The spellings of a report. -/
def ReportText : List File → Bytes → Prop := Padded (ListText FileText)

/-! ## Drafts -/

/-- The value, if the name of its field has been seen. -/
def noted {α : Type} (seen : List String) (name : String) (a : α) : Option α :=
  if name ∈ seen then some a else none

@[simp] theorem isSome_noted {α : Type} (seen : List String) (name : String) (a : α) :
    (noted seen name a).isSome = decide (name ∈ seen) := by
  unfold noted
  split <;> simp [*]

@[simp] theorem noted_cons_self {α : Type} (seen : List String) (name : String) (a : α) :
    noted (name :: seen) name a = some a := by
  simp [noted]

@[simp] theorem noted_cons_of_ne {α : Type} {name other : String} (h : name ≠ other)
    (seen : List String) (a : α) : noted (other :: seen) name a = noted seen name a := by
  simp [noted, h]

theorem getD_noted {α : Type} {seen : List String} {name : String} {a absent : α}
    (h : name ∈ seen ∨ a = absent) : (noted seen name a).getD absent = a := by
  unfold noted
  split
  · rfl
  · exact (h.resolve_left ‹_›).symm

/-- The message once these fields have been read. -/
def Message.draft (m : Message) (seen : List String) : Message.Draft where
  ruleId := noted seen "ruleId" m.ruleId
  severity := noted seen "severity" m.severity
  fatal := noted seen "fatal" m.fatal
  message := noted seen "message" m.message
  line := noted seen "line" m.line
  column := noted seen "column" m.column
  endLine := noted seen "endLine" m.endLine
  endColumn := noted seen "endColumn" m.endColumn

/-- The file once these fields have been read. -/
def File.draft (f : File) (seen : List String) : File.Draft where
  path := noted seen "filePath" f.path
  messages := noted seen "messages" f.messages

theorem Message.complete_draft {m : Message} {seen : List String}
    (h : ∀ e ∈ m.entries, e.name ∈ seen ∨ e.Optional) : (m.draft seen).complete = m := by
  simp only [entries, List.forall_mem_cons] at h
  obtain ⟨hruleId, hseverity, hfatal, hmessage, hline, hcolumn, hendLine, hendColumn, -⟩ := h
  have hmessage : "message" ∈ seen ∨ m.message = "" := hmessage.imp_right False.elim
  simp only [Draft.complete, draft, getD_noted, *]

theorem File.complete_draft {f : File} {seen : List String}
    (h : ∀ e ∈ f.entries, e.name ∈ seen ∨ e.Optional) : (f.draft seen).complete = f := by
  simp only [entries, List.forall_mem_cons] at h
  obtain ⟨hpath, hmessages, -⟩ := h
  have hpath : "filePath" ∈ seen ∨ f.path = "" := hpath.imp_right False.elim
  simp only [Draft.complete, draft, getD_noted, *]

/-! ## Reading -/

theorem Message.shape_matches (m : Message) : shape.Matches m.entries m.draft where
  blank_eq := rfl
  fields := by
    refine .cons ?_ <| .cons ?_ <| .cons ?_ <| .cons ?_ <| .cons ?_ <| .cons ?_ <| .cons ?_ <|
      .cons ?_ .nil
    · exact Field.matches_of_reads (fun a d => { d with ruleId := some a }) rfl (by simp [draft])
        (fun _ => rfl) (fun _ h => reads_optional_string h _) (by simp [draft]) (by simp)
    · exact Field.matches_of_reads (fun a d => { d with severity := some a }) rfl (by simp [draft])
        (fun _ => rfl) (fun _ h => reads_byte h) (by simp [draft]) (by simp)
    · exact Field.matches_of_reads (fun a d => { d with fatal := some a }) rfl (by simp [draft])
        (fun _ => rfl) (fun _ h => reads_bool h) (by simp [draft]) (by simp)
    · exact Field.matches_of_reads (fun a d => { d with message := some a }) rfl (by simp [draft])
        (fun _ => rfl) (fun _ h => reads_string h _) (by simp [draft]) (by simp)
    · exact Field.matches_of_reads (fun a d => { d with line := some a }) rfl (by simp [draft])
        (fun _ => rfl) (fun _ h => reads_optional_word32 h) (by simp [draft]) (by simp)
    · exact Field.matches_of_reads (fun a d => { d with column := some a }) rfl (by simp [draft])
        (fun _ => rfl) (fun _ h => reads_optional_word32 h) (by simp [draft]) (by simp)
    · exact Field.matches_of_reads (fun a d => { d with endLine := some a }) rfl (by simp [draft])
        (fun _ => rfl) (fun _ h => reads_optional_word32 h) (by simp [draft]) (by simp)
    · exact Field.matches_of_reads (fun a d => { d with endColumn := some a }) rfl (by simp [draft])
        (fun _ => rfl) (fun _ h => reads_optional_word32 h) (by simp [draft]) (by simp)

theorem Message.reads {m : Message} {t : Bytes} (h : MessageText m t) : Reads Message.read t m :=
  reads_completed m.shape_matches (fun _ => complete_draft) h

theorem File.shape_matches (f : File) : shape.Matches f.entries f.draft where
  blank_eq := rfl
  fields := by
    have hlist : ∀ t, ListText MessageText f.messages t → Reads (list Message.read) t f.messages :=
      fun t h => reads_list (fun m t hm => Message.reads hm) (fun m t hm => recordText_begins hm) h
    refine .cons ?_ <| .cons ?_ .nil
    · exact Field.matches_of_reads (fun a d => { d with path := some a }) rfl (by simp [draft])
        (fun _ => rfl) (fun _ h => reads_string h _) (by simp [draft]) (by simp)
    · exact Field.matches_of_reads (fun a d => { d with messages := some a }) rfl (by simp [draft])
        (fun _ => rfl) hlist (by simp [draft]) (by simp)

theorem File.reads {f : File} {t : Bytes} (h : FileText f t) : Reads File.read t f :=
  reads_completed f.shape_matches (fun _ => complete_draft) h

/-! ## Reports -/

theorem files_of_reportText {fs : List File} {t : Bytes} (h : ReportText fs t) :
    files t = .ok fs := by
  refine readAll_padded (fun fs t hlist => ?_) h
  exact reads_list (fun f t hf => File.reads hf) (fun f t hf => recordText_begins hf) hlist

/-- A list is more than blanks, even if nothing is in it. -/
theorem allBlank_of_list {α : Type} {item : α → Bytes → Prop} {as : List α} {t : Bytes}
    (h : Padded (ListText item) as t) : t.allBlank = false := by
  obtain ⟨before, core, after, -, hcore, -, rfl⟩ := h
  have hbracket : openBracket ∈ core := by
    cases hcore <;> simp
  rw [Bytes.allBlank, List.all_eq_false]
  exact ⟨openBracket, by simp [hbracket], by decide⟩

/-- Every spelling of a report is accepted, and has the issues of its files in order. -/
theorem issues_of_reportText {fs : List File} {t : Bytes} (h : ReportText fs t) :
    issues t = .ok (fs.flatMap File.issues) := by
  rw [issues, allBlank_of_list h, files_of_reportText h]
  rfl

end LintDispatch.Report
