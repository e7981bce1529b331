import LintDispatch.CommandLine.Program
import LintDispatch.Proofs.Json.Writing
import LintDispatch.Proofs.Report.Writing
import LintDispatch.Proofs.Run.Parallel

/-!
# Issues that are written and read back
An issue has spellings as a message has (`Issue.Text`), and every one of them is read as the issue
(`Issue.reads`). An issue whose path reads as text is written as one of its spellings, on one line
and over several (`Issue.text_json`): what is left out is what a reader takes to be absent. So
whatever is written is read back.

What a run prints is such a list. The paths of its issues come from reports that were accepted, and
so they read as text (`Executor.exists_report_of_lint`).
-/

namespace LintDispatch

open Json

/-! ## Spellings -/

/-- The spellings of a severity. -/
def SeverityText (s : Severity) : Bytes → Prop := StringText s.name

theorem reads_severity {s : Severity} {t : Bytes} (h : SeverityText s t) :
    Reads Severity.read t s := by
  obtain ⟨body, hbody, rfl⟩ := h
  refine (skips_peekValue.bind _).reads fun i rest _ => ?_
  have htext : quote :: body ++ [quote] ++ rest = quote :: (body ++ quote :: rest) := by simp
  rw [htext, bind_peekValue rfl]
  simp only [beq_self_eq_true, if_true, bind_take]
  rw [Severity.readName, bind_of_eq_ok (stringBody_charsText hbody _ _), Severity.ofName?_name]
  exact ok_congr rest (by simp [Nat.add_assoc, Nat.add_comm 1])

namespace Issue

open Report (noted getD_noted)

/-- How the fields of an issue are written whose path reads as this text. -/
def entries (path : String) (i : Issue) : List Entry := [
  ⟨"path", StringText path, False⟩,
  ⟨"rule_id", NullableText StringText i.ruleId, i.ruleId = none⟩,
  ⟨"severity", SeverityText i.severity, i.severity = .error⟩,
  ⟨"message", StringText i.message, False⟩,
  ⟨"line", NatText i.line.toNat, False⟩,
  ⟨"column", NatText i.column.toNat, False⟩,
  ⟨"end_line", NullableText (fun n => NatText n.toNat) i.endLine, i.endLine = none⟩,
  ⟨"end_column", NullableText (fun n => NatText n.toNat) i.endColumn, i.endColumn = none⟩]

/-- The spellings of an issue. -/
def Text (i : Issue) (t : Bytes) : Prop :=
  ∃ path, i.path = Bytes.ofString path ∧ RecordText (i.entries path) t

/-- The issue once these fields have been read. -/
def draft (path : String) (i : Issue) (seen : List String) : Draft where
  path := noted seen "path" path
  ruleId := noted seen "rule_id" i.ruleId
  severity := noted seen "severity" i.severity
  message := noted seen "message" i.message
  line := noted seen "line" i.line
  column := noted seen "column" i.column
  endLine := noted seen "end_line" i.endLine
  endColumn := noted seen "end_column" i.endColumn

theorem issue_draft {path : String} {i : Issue} {seen : List String}
    (hpath : i.path = Bytes.ofString path)
    (h : ∀ e ∈ i.entries path, e.name ∈ seen ∨ e.Optional) : (i.draft path seen).issue = i := by
  obtain ⟨_, ruleId, severity, message, line, column, endLine, endColumn⟩ := i
  obtain rfl := hpath
  simp only [entries, List.forall_mem_cons] at h
  obtain ⟨hpath, hruleId, hseverity, hmessage, hline, hcolumn, hendLine, hendColumn, -⟩ := h
  have hpath : "path" ∈ seen ∨ path = "" := hpath.imp_right False.elim
  have hmessage : "message" ∈ seen ∨ message = "" := hmessage.imp_right False.elim
  have hline : "line" ∈ seen ∨ line = 0 := hline.imp_right False.elim
  have hcolumn : "column" ∈ seen ∨ column = 0 := hcolumn.imp_right False.elim
  simp only [Draft.issue, draft, getD_noted, *]

/-! ## Reading -/

theorem shape_matches (path : String) (i : Issue) :
    shape.Matches (i.entries path) (i.draft path) where
  blank_eq := rfl
  fields := by
    refine .cons ?_ <| .cons ?_ <| .cons ?_ <| .cons ?_ <| .cons ?_ <| .cons ?_ <| .cons ?_ <|
      .cons ?_ .nil
    · exact Field.matches_of_reads (fun a d => { d with path := some a }) rfl (by simp [draft])
        (fun _ => rfl) (fun _ h => reads_string h _) (by simp [draft]) (by simp)
    · exact Field.matches_of_reads (fun a d => { d with ruleId := some a }) rfl (by simp [draft])
        (fun _ => rfl) (fun _ h => reads_optional_string h _) (by simp [draft]) (by simp)
    · exact Field.matches_of_reads (fun a d => { d with severity := some a }) rfl (by simp [draft])
        (fun _ => rfl) (fun _ h => reads_severity h) (by simp [draft]) (by simp)
    · exact Field.matches_of_reads (fun a d => { d with message := some a }) rfl (by simp [draft])
        (fun _ => rfl) (fun _ h => reads_string h _) (by simp [draft]) (by simp)
    · exact Field.matches_of_reads (fun a d => { d with line := some a }) rfl (by simp [draft])
        (fun _ => rfl) (fun _ h => reads_word32 h) (by simp [draft]) (by simp)
    · exact Field.matches_of_reads (fun a d => { d with column := some a }) rfl (by simp [draft])
        (fun _ => rfl) (fun _ h => reads_word32 h) (by simp [draft]) (by simp)
    · exact Field.matches_of_reads (fun a d => { d with endLine := some a }) rfl (by simp [draft])
        (fun _ => rfl) (fun _ h => reads_optional_word32 h) (by simp [draft]) (by simp)
    · exact Field.matches_of_reads (fun a d => { d with endColumn := some a }) rfl (by simp [draft])
        (fun _ => rfl) (fun _ h => reads_optional_word32 h) (by simp [draft]) (by simp)

theorem reads {i : Issue} {t : Bytes} (h : i.Text t) : Reads Issue.read t i := by
  obtain ⟨path, hpath, h⟩ := h
  exact reads_completed (i.shape_matches path) (fun _ => issue_draft hpath) h

theorem begins {i : Issue} {t : Bytes} (h : i.Text t) : Begins t := by
  obtain ⟨path, -, h⟩ := h
  exact recordText_begins h

/-! ## Writing -/

/-- The fields that are written. -/
def fields (path : String) (i : Issue) : List (String × Value) :=
  ("path", .string path) ::
    ((i.ruleId.map fun r => ("rule_id", Value.string r)).toList ++
      ("severity", .string i.severity.name) :: ("message", .string i.message) ::
        ("line", .nat i.line.toNat) :: ("column", .nat i.column.toNat) ::
          (numberField "end_line" i.endLine ++ (numberField "end_column" i.endColumn ++ [])))

theorem json?_eq {i : Issue} {v : Value} (h : i.json? = some v) :
    ∃ path, i.path = Bytes.ofString path ∧ v = .object (i.fields path) := by
  obtain ⟨path, hpath, hv⟩ := Option.bind_eq_some_iff.mp h
  refine ⟨path, Utf8.ofString_of_decode? hpath, ?_⟩
  rw [← Option.some.inj hv]
  simp [fields]

/-- A field with its value as it is laid out. -/
def member (layout : Value → List Char) (field : String × Value) : String × Bytes :=
  (field.1, utf8 (layout field.2))

/-- A value that is left out if it is absent. -/
theorem written_optional {α : Type} {layout : Value → List Char} {name : String} {a : Option α}
    {item : α → Bytes → Prop} {json : α → Value} (h : ∀ a, item a (utf8 (layout (json a))))
    {entries : List Entry} {fields : List (String × Value)}
    (tail : Written entries (fields.map (member layout))) :
    Written (⟨name, NullableText item a, a = none⟩ :: entries)
      (((a.map fun a => (name, json a)).toList ++ fields).map (member layout)) := by
  cases a with
  | none => exact .skip rfl tail
  | some a => exact .cons ⟨rfl, h a⟩ tail

theorem numberField_eq (name : String) (n : Option UInt32) :
    numberField name n = (n.map fun n => (name, Value.nat n.toNat)).toList := by
  cases n <;> rfl

/-- Strings and numbers are laid out as on one line. -/
def Flat (layout : Value → List Char) : Prop :=
  (∀ s, layout (.string s) = (Value.string s).compact) ∧
    ∀ n, layout (.number n) = (Value.number n).compact

theorem written_fields {layout : Value → List Char} (flat : Flat layout) (path : String)
    (i : Issue) : Written (i.entries path) ((i.fields path).map (member layout)) := by
  have hstring (s : String) : StringText s (utf8 (layout (.string s))) := by
    rw [flat.1, Value.compact]
    exact stringText_writeString s
  have hword (n : UInt32) : NatText n.toNat (utf8 (layout (.nat n.toNat))) := by
    rw [Value.nat, flat.2]
    exact natText_nat n.toNat
  rw [fields, numberField_eq, numberField_eq]
  exact .cons ⟨rfl, hstring path⟩ <| written_optional hstring <|
    .cons ⟨rfl, hstring i.severity.name⟩ <| .cons ⟨rfl, hstring i.message⟩ <|
    .cons ⟨rfl, hword i.line⟩ <| .cons ⟨rfl, hword i.column⟩ <|
    written_optional hword <| written_optional hword .nil

theorem flat_compact : Flat Value.compact := ⟨fun _ => rfl, fun _ => rfl⟩

theorem flat_pretty (level : Nat) : Flat (Value.pretty level) := ⟨fun _ => rfl, fun _ => rfl⟩

/-- An issue is written as one of its spellings, on one line and over several. -/
theorem text_json {i : Issue} {v : Value} (h : i.json? = some v) :
    i.Text (utf8 v.compact) ∧ ∀ level, i.Text (utf8 (v.pretty level)) := by
  obtain ⟨path, hpath, rfl⟩ := json?_eq h
  have hnames : ((i.entries path).map Entry.name).Nodup := by
    show ["path", "rule_id", "severity", "message", "line", "column", "end_line",
      "end_column"].Nodup
    decide
  refine ⟨⟨path, hpath, _, (written_fields flat_compact path i).describes hnames,
    bracketed_compact _⟩, fun level => ⟨path, hpath, _,
    (written_fields (flat_pretty (level + 1)) path i).describes hnames, bracketed_pretty level _⟩⟩

theorem exists_json {i : Issue} (h : Utf8.isValid i.path = true) : ∃ v, i.json? = some v := by
  rw [json?, Utf8.decode?, if_pos h]
  exact ⟨_, rfl⟩

theorem ofString_text (v : Value) : Bytes.ofString v.text = utf8 v.compact := by
  rw [Bytes.ofString, Value.text, String.toList_ofList, utf8]

theorem ofString_prettyText (v : Value) : Bytes.ofString v.prettyText = utf8 (v.pretty 0) := by
  rw [Bytes.ofString, Value.prettyText, String.toList_ofList, utf8]

/-- Issues whose paths read as text are written as a list that has spellings of them as its
elements. -/
theorem exists_listText {issues : List Issue} (h : ∀ i ∈ issues, Utf8.isValid i.path = true) :
    ∃ t, listText? issues = some t ∧ ListText Issue.Text issues (Bytes.ofString t) := by
  obtain ⟨vs, hvs, hlist⟩ : ∃ vs, issues.mapM json? = some vs ∧
      List.Forall₂ (fun i v => i.Text (utf8 (v.pretty 1))) issues vs := by
    induction issues with
    | nil => exact ⟨[], rfl, .nil⟩
    | cons i issues ih =>
      obtain ⟨hi, h⟩ := List.forall_mem_cons.mp h
      obtain ⟨v, hv⟩ := exists_json hi
      obtain ⟨vs, hvs, hlist⟩ := ih h
      exact ⟨v :: vs, by simp [List.mapM_cons, hv, hvs], .cons ((text_json hv).2 1) hlist⟩
  refine ⟨_, by rw [listText?, hvs, Option.map_some], ?_⟩
  rw [ofString_prettyText]
  exact listText_pretty hlist

end Issue

/-! ## Printing -/

namespace Program

/-- The issues of a result are printed, and a reader of issues finds the same ones. -/
def ReadsBack (result : RunResult) : Prop :=
  ∀ files, ∃ t, resultText .json result files = .ok t ∧
    readAll (list Issue.read) (Bytes.ofString t) = .ok result.issues

theorem readsBack_of_isValid {result : RunResult}
    (h : ∀ i ∈ result.issues, Utf8.isValid i.path = true) : ReadsBack result := by
  intro files
  obtain ⟨t, ht, hlist⟩ := Issue.exists_listText h
  refine ⟨t ++ "\n", by simp only [resultText, ht], ?_⟩
  have hline : Bytes.ofString (t ++ "\n") = [] ++ Bytes.ofString t ++ [10] := by
    simp [Bytes.ofString]
    rfl
  rw [hline]
  refine readAll_padded (fun is u hu => ?_) ⟨[], _, [10], blanks_nil, hlist, ?_, rfl⟩
  · exact reads_list (fun i u hi => Issue.reads hi) (fun i u hi => Issue.begins hi) hu
  · intro b hb
    rw [List.mem_singleton.mp hb]
    rfl

end Program

namespace Report

/-- The paths of a report that is accepted read as text. -/
theorem isValid_of_issues {raw : Bytes} {found : List Issue} (h : issues raw = .ok found) :
    ∀ i ∈ found, Utf8.isValid i.path = true := by
  intro i hi
  unfold issues at h
  split at h
  · cases h
    cases hi
  split at h
  · cases h
    obtain ⟨f, -, hf⟩ := List.mem_flatMap.mp hi
    obtain ⟨m, -, rfl⟩ := List.mem_map.mp hf
    exact Utf8.isValid_ofString f.path
  · cases h

end Report

namespace Executor

variable {ρ τ : Type} {x : Executor ρ τ} {config : Config} {s : Session ρ τ}

/-- A batch that has been linted has a report that was accepted. -/
theorem exists_report_of_fate {b : Batch} {total : Nat} {found : List Issue} {ds : List Deed}
    (fate : b.Fate config total (.ok found) ds) : ∃ raw, Report.issues raw = .ok found := by
  obtain ⟨r, -, lived⟩ := Round.exists_lived_of_fate fate
  obtain rfl : found = r.issues := Except.ok.inj (Option.some.inj lived.result_eq)
  exact ⟨r.text, lived.accepted.issues_eq⟩

/-- What a run has found was reported to it. -/
theorem exists_report_of_lint {mode : Mode} {files : List Path} {result : RunResult}
    (h : (x.lint mode config files s).1 = .ok result) :
    ∀ i ∈ result.issues, ∃ raw found, Report.issues raw = .ok found ∧ i ∈ found := by
  rcases x.lint_cases mode config files s with ⟨e, heq⟩ | ⟨hobstacle, hcheck⟩
  · simp [heq] at h
  obtain ⟨history, lives, a, -⟩ := lint_accounts hobstacle hcheck x s
  obtain ⟨found, hfound, rfl⟩ := a.completed result h
  intro i hi
  obtain ⟨issues, hissues, hi⟩ := List.mem_flatten.mp hi
  have hmem : some (.ok issues) ∈ lives.map Life.result := by
    rw [hfound]
    exact List.mem_map_of_mem hissues
  obtain ⟨l, hl, hresult⟩ := List.mem_map.mp hmem
  obtain ⟨k, hk⟩ := List.getElem?_of_mem hl
  obtain ⟨b, -, -, -, hlived⟩ := a.exists_lived hk
  rw [Batch.Lived, hresult] at hlived
  obtain ⟨raw, hraw⟩ := exists_report_of_fate hlived
  exact ⟨raw, issues, hraw, hi⟩

end Executor

namespace Issue

/-- An issue is read back from its text. So are all issues that come from reports, and those of a
run, from what is printed of them. -/
theorem texts_read_back :
    (∀ i : Issue, Utf8.isValid i.path = true →
      ∃ t, i.text? = some t ∧ ofText (Bytes.ofString t) = .ok i) ∧
    (∀ (raw : Bytes) (found : List Issue), Report.issues raw = .ok found →
      ∀ result : RunResult, result.issues = found → Program.ReadsBack result) ∧
    ∀ {ρ τ : Type} (x : Executor ρ τ) (config : Config) (files : List Path) (crew : Crew)
      (s : Session ρ τ) (result : RunResult), (x.run config files crew s).1 = .ok result →
      Program.ReadsBack result := by
  refine ⟨fun i hi => ?_, fun raw found h result heq => ?_, ?_⟩
  · obtain ⟨v, hv⟩ := exists_json hi
    refine ⟨v.text, by rw [text?, hv, Option.map_some], ?_⟩
    rw [ofString_text]
    exact readAll_padded (fun i t ht => Issue.reads ht) (padded_of_item (text_json hv).1)
  · refine Program.readsBack_of_isValid ?_
    rw [heq]
    exact Report.isValid_of_issues h
  · intro ρ τ x config files crew s result h
    rw [x.run_eq_lint] at h
    refine Program.readsBack_of_isValid fun i hi => ?_
    obtain ⟨raw, found, hraw, hi⟩ := Executor.exists_report_of_lint h i hi
    exact Report.isValid_of_issues hraw i hi

/-- An issue about a file `é` with a message that has to be escaped. -/
def accented : Issue where
  path := [0xC3, 0xA9]
  ruleId := some "quotes"
  severity := .info
  message := "\"\\\n\u0001"
  line := 3
  column := 0
  endLine := some 4294967295

/-- Such an issue, one that a report tells of, and the issues of a run of two batches. -/
theorem accented_reads_back :
    (∃ t, accented.text? = some t ∧ ofText (Bytes.ofString t) = .ok accented) ∧
    Program.ReadsBack
      ⟨[{ path := [97], severity := .info, message := "m", line := 1, column := 1 }], 1⟩ ∧
    (Executor.tellsOnce.run Plan.narrow [[97], [98], [99]] (.atWork []) .fresh).1 =
      .ok ⟨[{ path := [97], severity := .warning, message := "m", line := 1, column := 1 }], 2⟩ ∧
    Program.ReadsBack
      ⟨[{ path := [97], severity := .warning, message := "m", line := 1, column := 1 }], 2⟩ := by
  have hraw : Report.issues (Report.write [⟨"a", [{ message := "m" }]⟩]) =
      .ok [{ path := [97], severity := .info, message := "m", line := 1, column := 1 }] := by
    decide +kernel
  have hrun : (Executor.tellsOnce.run Plan.narrow [[97], [98], [99]] (.atWork []) .fresh).1 = .ok
      ⟨[{ path := [97], severity := .warning, message := "m", line := 1, column := 1 }], 2⟩ := by
    decide +kernel
  exact ⟨texts_read_back.1 accented (by decide +kernel), texts_read_back.2.1 _ _ hraw _ rfl, hrun,
    texts_read_back.2.2 _ _ _ _ _ _ hrun⟩

end Issue
end LintDispatch
