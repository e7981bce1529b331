import LintDispatch.Proofs.Json.Taken.Records
import LintDispatch.Proofs.Json.Values
import LintDispatch.Proofs.Report.Spelling

/-!
# Which reports are accepted
A report is accepted if it holds nothing but blanks or is a list of records with the fields that a
report has to have, and every other text is a failure (`issues_eq_ok_iff_form`). The records are
looked for by their fields and not by their braces: a file or a message may also be written as the
list of its values (`Form`), and so a report without any object in it can be accepted
(`bare_accepted_not_wellShaped`).
-/

namespace LintDispatch.Report

open Json

/-! ## Forms -/

/-- The spellings of a message, as an object or as a list. -/
def Message.Form (m : Message) : Bytes → Prop := RecordForm m.entries

/-- How the fields of a file are written, whatever the form of its messages. -/
def File.formEntries (f : File) : List Entry := [
  ⟨"filePath", StringText f.path, False⟩,
  ⟨"messages", ListText Message.Form f.messages, f.messages = []⟩]

/-- The spellings of a file with its messages, as an object or as a list. -/
def File.Form (f : File) : Bytes → Prop := RecordForm f.formEntries

/-- The spellings of a report, whose records may be objects or lists. -/
def Form : List File → Bytes → Prop := Padded (ListText File.Form)

theorem Message.isValue_entries (m : Message) : ∀ e ∈ m.entries, ∀ t, e.Text t → IsValue t := by
  have hnumber (n : Option UInt32) t (h : NullableText (fun n : UInt32 => NatText n.toNat) n t) :=
    isValue_of_nullableText (fun n _ => isValue_of_natText n.toNat) n h
  simp only [entries, List.forall_mem_cons]
  exact ⟨fun _ => isValue_of_nullableText isValue_of_stringText m.ruleId,
    fun _ => isValue_of_natText _, fun _ => .bool, fun _ => isValue_of_stringText _,
    hnumber m.line, hnumber m.column, hnumber m.endLine, hnumber m.endColumn, by simp⟩

theorem Message.isValue_of_form {m : Message} {t : Bytes} (h : m.Form t) : IsValue t :=
  isValue_of_recordForm h m.isValue_entries

theorem File.isValue_entries (f : File) : ∀ e ∈ f.formEntries, ∀ t, e.Text t → IsValue t := by
  simp only [formEntries, List.forall_mem_cons]
  exact ⟨fun _ => isValue_of_stringText _,
    fun _ h => isValue_of_listText h fun _ _ _ => Message.isValue_of_form, by simp⟩

theorem File.isValue_of_form {f : File} {t : Bytes} (h : f.Form t) : IsValue t :=
  isValue_of_recordForm h f.isValue_entries

/-! ## Every form is read -/

theorem Message.leavesOut (m : Message) : List.Forall₂ Field.LeavesOut shape.fields m.entries := by
  simp [shape, entries, Field.LeavesOut]

theorem Message.reads_form {m : Message} {t : Bytes} (h : m.Form t) : Reads Message.read t m := by
  have hbegins e he t (ht : e.Text t) := (m.isValue_entries e he t ht).passes.1
  obtain ⟨seen, hseen, hread⟩ := Json.reads_form m.shape_matches m.leavesOut hbegins h
  have := hread.map Draft.complete
  rwa [complete_draft hseen] at this

theorem File.form_matches (f : File) : shape.Matches f.formEntries f.draft where
  blank_eq := rfl
  fields := by
    have hbegins (m : Message) t (h : m.Form t) := (Message.isValue_of_form h).passes.1
    have hlist : ∀ t, ListText Message.Form f.messages t → Reads (list Message.read) t f.messages :=
      fun t h => reads_list (fun m t hm => Message.reads_form hm) hbegins h
    refine .cons ?_ <| .cons ?_ .nil
    · exact Field.matches_of_reads (fun a d => { d with path := some a }) rfl (by simp [draft])
        (fun _ => rfl) (fun _ h => reads_string h _) (by simp [draft]) (by simp)
    · exact Field.matches_of_reads (fun a d => { d with messages := some a }) rfl (by simp [draft])
        (fun _ => rfl) hlist (by simp [draft]) (by simp)

theorem File.leavesOut (f : File) : List.Forall₂ Field.LeavesOut shape.fields f.formEntries := by
  simp [shape, formEntries, Field.LeavesOut]

theorem File.reads_form {f : File} {t : Bytes} (h : f.Form t) : Reads File.read t f := by
  have hbegins e he t (ht : e.Text t) := (f.isValue_entries e he t ht).passes.1
  obtain ⟨seen, hseen, hread⟩ := Json.reads_form f.form_matches f.leavesOut hbegins h
  have := hread.map Draft.complete
  rwa [complete_draft (by simpa [formEntries, entries] using hseen)] at this

theorem files_of_form {fs : List File} {t : Bytes} (h : Form fs t) : files t = .ok fs := by
  have hbegins (f : File) t (h : f.Form t) := (File.isValue_of_form h).passes.1
  exact readAll_padded
    (fun fs t hlist => reads_list (fun f t hf => File.reads_form hf) hbegins hlist) h

/-! ## Nothing else is read -/

/-- How the fields are written that have been read. -/
def Message.Draft.entries (d : Draft) : List Entry := d.complete.entries

/-- How the fields are written that have been read. -/
def File.Draft.entries (d : Draft) : List Entry := d.complete.formEntries

theorem Message.shape_tells : shape.Tells Draft.entries where
  names _ := rfl
  nodup := by decide
  blank := by simp [shape]
  reads := by
    refine List.forall_mem_cons.mpr
      ⟨Field.takes_of_takes (fun a d => { d with ruleId := some a }) (fun _ => rfl)
        (takes_optional (takes_string _)) ?_, List.forall_mem_cons.mpr
      ⟨Field.takes_of_takes (fun a d => { d with severity := some a }) (fun _ => rfl)
        takes_byte ?_, List.forall_mem_cons.mpr
      ⟨Field.takes_of_takes (fun a d => { d with fatal := some a }) (fun _ => rfl)
        takes_bool ?_, List.forall_mem_cons.mpr
      ⟨Field.takes_of_takes (fun a d => { d with message := some a }) (fun _ => rfl)
        (takes_string _) ?_, List.forall_mem_cons.mpr
      ⟨Field.takes_of_takes (fun a d => { d with line := some a }) (fun _ => rfl)
        (takes_optional takes_word32) ?_, List.forall_mem_cons.mpr
      ⟨Field.takes_of_takes (fun a d => { d with column := some a }) (fun _ => rfl)
        (takes_optional takes_word32) ?_, List.forall_mem_cons.mpr
      ⟨Field.takes_of_takes (fun a d => { d with endLine := some a }) (fun _ => rfl)
        (takes_optional takes_word32) ?_, List.forall_mem_cons.mpr
      ⟨Field.takes_of_takes (fun a d => { d with endColumn := some a }) (fun _ => rfl)
        (takes_optional takes_word32) ?_, List.forall_mem_nil _⟩⟩⟩⟩⟩⟩⟩⟩
    all_goals exact fun a d t h => ⟨⟨by simp [Draft.entries, entries, Draft.complete],
      by simp [shape]⟩, by simpa [Draft.entries, entries, Draft.complete] using h⟩
  optional d := by
    simp +contextual [shape, Draft.entries, entries, Draft.complete]

theorem Message.takes_read : Takes Message.read Message.Form :=
  (takes_record shape_tells).map fun _ _ h => h

theorem File.shape_tells : shape.Tells Draft.entries where
  names _ := rfl
  nodup := by decide
  blank := by simp [shape]
  reads := by
    refine List.forall_mem_cons.mpr
      ⟨Field.takes_of_takes (fun a d => { d with path := some a }) (fun _ => rfl)
        (takes_string _) ?_, List.forall_mem_cons.mpr
      ⟨Field.takes_of_takes (fun a d => { d with messages := some a }) (fun _ => rfl)
        (takes_list Message.takes_read) ?_, List.forall_mem_nil _⟩⟩
    all_goals exact fun a d t h => ⟨⟨by simp [Draft.entries, formEntries, Draft.complete],
      by simp [shape]⟩, by simpa [Draft.entries, formEntries, Draft.complete] using h⟩
  optional d := by
    simp +contextual [shape, Draft.entries, formEntries, Draft.complete]

theorem File.takes_read : Takes File.read File.Form :=
  (takes_record shape_tells).map fun _ _ h => h

/-- A text is read as the files of a report if and only if it is one of its forms. -/
theorem files_eq_ok_iff {fs : List File} {t : Bytes} : files t = .ok fs ↔ Form fs t :=
  ⟨padded_of_readAll (takes_list File.takes_read), files_of_form⟩

/-! ## Reports -/

theorem isJson_of_form {fs : List File} {t : Bytes} (h : Form fs t) : IsJson t := by
  obtain ⟨before, value, after, hbefore, hvalue, hafter, rfl⟩ := h
  have hvalue := isValue_of_listText hvalue fun _ _ _ => File.isValue_of_form
  exact ⟨before, value, after, hbefore, hvalue, hafter, rfl⟩

/-- A text is accepted with the issues of its files if it has the form of a report, which is JSON,
and with none if it is blank. Any other text fails, and then it is the text that is said to be
wrong. -/
theorem issues_eq_ok_iff_form (raw : Bytes) :
    (∀ found, issues raw = .ok found ↔ (raw.allBlank = true ∧ found = []) ∨
      ∃ fs, Form fs raw ∧ IsJson raw ∧ found = fs.flatMap File.issues) ∧
    ((∃ message, issues raw = .error (.parse message)) ↔
      raw.allBlank = false ∧ ∀ fs, ¬Form fs raw) := by
  cases hblank : raw.allBlank with
  | true =>
    have hform (fs : List File) : ¬Form fs raw := fun h => by
      simp [allBlank_of_list h] at hblank
    have hissues : issues raw = .ok [] := by simp [issues, hblank]
    simp [hissues, hform, eq_comm]
  | false =>
    cases hfiles : files raw with
    | ok fs =>
      have hissues : issues raw = .ok (fs.flatMap File.issues) := by simp [issues, hblank, hfiles]
      have hform (fs' : List File) : Form fs' raw ↔ fs' = fs := by
        rw [← files_eq_ok_iff, hfiles, Except.ok.injEq, eq_comm]
      have hjson : IsJson raw := isJson_of_form ((hform fs).mpr rfl)
      simp [hissues, hform, hjson, eq_comm]
    | error f =>
      have hissues : issues raw = .error (failure raw f) := by simp [issues, hblank, hfiles]
      have hform (fs : List File) : ¬Form fs raw := by
        rw [← files_eq_ok_iff, hfiles]
        intro h
        cases h
      simp [hissues, hform, failure]

/-! ## Reports of objects -/

/-- There is a string under this name. -/
def HasString (name : String) (members : List (String × Bytes)) : Prop :=
  ∃ s t, (name, t) ∈ members ∧ StringText s t

/-- The text is an object with the text of a message. -/
def Message.IsObject (t : Bytes) : Prop :=
  ∃ members, Bracketed openBrace closeBrace MemberText members t ∧ HasString "message" members

/-- The text is an object with the path of a file, and its messages are objects if there are any. -/
def File.IsObject (t : Bytes) : Prop :=
  ∃ members, Bracketed openBrace closeBrace MemberText members t ∧ HasString "filePath" members ∧
    ∀ value, ("messages", value) ∈ members →
      ∃ messages, ListText (fun m t => t = m ∧ Message.IsObject t) messages value

/-- The text is a list of objects, one for each file. -/
def WellShaped (raw : Bytes) : Prop :=
  ∃ fs, Padded (ListText fun f t => t = f ∧ File.IsObject t) fs raw

/-- A report of objects has a brace in it if there is anything between its brackets. -/
theorem WellShaped.brace_mem {raw : Bytes} (h : WellShaped raw) :
    openBrace ∈ raw ∨ ∀ b ∈ raw, isSpace b = true ∨ b = openBracket ∨ b = closeBracket := by
  obtain ⟨fs, before, core, after, hbefore, hcore, hafter, rfl⟩ := h
  cases hcore with
  | empty blanks =>
    refine Or.inr fun b hb => ?_
    simp only [List.mem_append, List.mem_cons, List.not_mem_nil, or_false] at hb
    rcases hb with (hb | (rfl | hb) | rfl) | hb
    · exact Or.inl (hbefore b hb)
    · simp
    · exact Or.inl (blanks b hb)
    · simp
    · exact Or.inl (hafter b hb)
  | filled items =>
    obtain ⟨f, -, before', object, more, -, ⟨-, members, hobject, -⟩, rfl⟩ := items.exists_head
    have hbrace : openBrace ∈ object := by
      cases hobject <;> simp
    simp [hbrace]

/-- A report of one file that is written as a list with its path. -/
def bare : Bytes := Bytes.ofString "[[\"a.js\"]]"

/-- Not every report that is accepted is a list of objects: here the file is taken for a clean
one. -/
theorem bare_accepted_not_wellShaped :
    issues bare = .ok [] ∧ bare.allBlank = false ∧ ¬WellShaped bare := by
  refine ⟨by decide +kernel, by decide +kernel, fun h => ?_⟩
  rcases h.brace_mem with hbrace | hbytes
  · exact absurd hbrace (by decide +kernel)
  · exact absurd (hbytes quote (by decide +kernel)) (by decide)

end LintDispatch.Report
