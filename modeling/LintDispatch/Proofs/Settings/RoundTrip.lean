import LintDispatch.Proofs.Relaxed.Reading
import LintDispatch.Proofs.Settings.Documents

/-!
# Writing settings and reading them back
Settings are written with null for a path that is absent. For the directory of rules and the
launcher the schema takes it, for the linter and its configuration it does not. So settings are read
back if both of these are there, and then as they were but for the directory that they were found in
(`ofText_text`). In every other case the schema refuses what has been written, which happens even to
the settings that an empty document holds.
-/

namespace LintDispatch.Settings

open Json (Value)

variable {s : Settings}

/-! ## What is written -/

/-- The fields that settings are written as. -/
def members (s : Settings) : List (String × Value) :=
  [("enabled", .bool s.enabled), ("linter_path", .stringOrNull s.linter),
    ("config_file", .stringOrNull s.configFile), ("rules_dir", .stringOrNull s.rulesDir),
    ("timeout_ms", .nat s.timeout.toNat), ("launcher", .stringOrNull s.launcher),
    ("max_command_length", .nat s.maxCommandLength.toNat), ("jobs", .nat s.jobs.toNat)] ++
    (s.files.map fun fs => ("files", Value.list (fs.map .string))).toList

theorem toValue_eq (s : Settings) : s.toValue = .object s.members := by
  rw [toValue, members]
  cases s.files <;> rfl

theorem nodup_members (s : Settings) : (s.members.map Prod.fst).Nodup := by
  rw [members]
  cases s.files <;> simp

theorem reads_stringOrNull : ∀ s : Option String,
    Relaxed.Reads (Value.stringOrNull s).compact (.stringOrNull s)
  | none => Relaxed.reads_null
  | some s => Relaxed.reads_string s

theorem reads_members (s : Settings) : ∀ f ∈ s.members, Relaxed.Reads f.2.compact f.2 := by
  have hfiles : ∀ f ∈ (s.files.map fun fs => ("files", Value.list (fs.map .string))).toList,
      Relaxed.Reads f.2.compact f.2 := by
    cases s.files with
    | none => exact List.forall_mem_nil _
    | some fs =>
      refine List.forall_mem_singleton.mpr (Relaxed.reads_list fun v hv => ?_)
      obtain ⟨path, -, rfl⟩ := List.mem_map.mp hv
      exact Relaxed.reads_string path
  refine List.forall_mem_append.mpr ⟨?_, hfiles⟩
  simp only [List.forall_mem_cons]
  exact ⟨Relaxed.reads_bool _, reads_stringOrNull _, reads_stringOrNull _, reads_stringOrNull _,
    Relaxed.reads_nat s.timeout.toNat_lt_size, reads_stringOrNull _,
    Relaxed.reads_nat s.maxCommandLength.toNat_lt_size, Relaxed.reads_nat s.jobs.toNat_lt_size,
    List.forall_mem_nil _⟩

/-- The text of settings is read as their fields in order. -/
theorem parse_text (s : Settings) :
    Relaxed.parse s.text = .ok (some (.object (Relaxed.sortFields s.members))) := by
  rw [text, toValue_eq]
  exact Relaxed.parse_of_reads (Relaxed.reads_object s.reads_members)

/-! ## What it says -/

theorem describes_members (s : Settings) :
    Describes (Relaxed.sortFields s.members) { s with baseDir := none } := by
  have hdelivered := Relaxed.delivered_of_parse s.parse_text
  have hmem {f : String × Value} (h : f ∈ s.members) : f ∈ Relaxed.sortFields s.members :=
    (Relaxed.mem_sortFields_iff s.nodup_members f).mpr h
  have htells {α : Type} {name : String} {json : α → Value} {a : α}
      (h : (name, json a) ∈ s.members) (absent : α) :
      Tells (Relaxed.sortFields s.members) name json absent a :=
    tells_of_mem hdelivered.nodup (hmem h) absent
  exact {
    enabled := htells (by simp [members]) _
    linter := htells (by simp [members]) _
    configFile := htells (by simp [members]) _
    rulesDir := htells (by simp [members]) _
    timeout := htells (by simp [members]) _
    launcher := htells (by simp [members]) _
    maxCommandLength := htells (by simp [members]) _
    jobs := htells (by simp [members]) _
    files := by
      cases hfiles : s.files with
      | some fs => exact htells (by simp [members, hfiles, filesValue]) _
      | none =>
        refine ⟨fun v hv => ?_, fun _ => rfl⟩
        have hv := (Relaxed.mem_sortFields_iff s.nodup_members _).mp hv
        simp [members, hfiles] at hv
    baseDir := rfl }

/-- A path that is absent is the one field that settings may not have. -/
def IsAbsent (s : Settings) (f : String × Value) : Prop :=
  f = ("config_file", .null) ∧ s.configFile = none ∨ f = ("linter_path", .null) ∧ s.linter = none

/-- Positive counts are words. -/
theorem isWord_nat {n : UInt64} (h : n ≠ 0) : IsWord (.nat n.toNat) := by
  refine ⟨n, ?_, rfl⟩
  have hne : n.toNat ≠ 0 := fun hzero => h (UInt64.toNat_inj.mp hzero)
  rw [UInt64.le_iff_toNat_le]
  exact Nat.one_le_iff_ne_zero.mpr hne

theorem fieldOf_members (htimeout : s.timeout ≠ 0) (hlength : s.maxCommandLength ≠ 0)
    (hjobs : s.jobs ≠ 0) : ∀ f ∈ s.members, FieldOf IsWord f ∨ s.IsAbsent f := by
  have hlinter : FieldOf IsWord ("linter_path", .stringOrNull s.linter) ∨
      s.IsAbsent ("linter_path", .stringOrNull s.linter) := by
    cases h : s.linter with
    | none => exact Or.inr (Or.inr ⟨rfl, h⟩)
    | some linter => exact Or.inl (.text (by simp) linter)
  have hconfig : FieldOf IsWord ("config_file", .stringOrNull s.configFile) ∨
      s.IsAbsent ("config_file", .stringOrNull s.configFile) := by
    cases h : s.configFile with
    | none => exact Or.inr (Or.inl ⟨rfl, h⟩)
    | some configFile => exact Or.inl (.text (by simp) configFile)
  have hfiles : ∀ f ∈ (s.files.map fun fs => ("files", Value.list (fs.map .string))).toList,
      FieldOf IsWord f ∨ s.IsAbsent f := by
    cases s.files with
    | none => exact List.forall_mem_nil _
    | some fs => exact List.forall_mem_singleton.mpr (Or.inl (.texts fs))
  refine List.forall_mem_append.mpr ⟨?_, hfiles⟩
  simp only [List.forall_mem_cons]
  exact ⟨Or.inl (.truth _), hlinter, hconfig, Or.inl (.textOrNull (by simp) _),
    Or.inl (.count (by simp) (isWord_nat htimeout)), Or.inl (.textOrNull (by simp) _),
    Or.inl (.count (by simp) (isWord_nat hlength)), Or.inl (.count (by simp) (isWord_nat hjobs)),
    List.forall_mem_nil _⟩

theorem IsAbsent.not_fieldOf {f : String × Value} (h : s.IsAbsent f) (Count : Value → Prop) :
    ¬FieldOf Count f := by
  intro hf
  have hkind : properties.lookup f.1 = some .text := by
    rcases h with ⟨rfl, -⟩ | ⟨rfl, -⟩ <;> rfl
  obtain ⟨t, ht⟩ := FieldOf.holds hf hkind
  rcases h with ⟨rfl, -⟩ | ⟨rfl, -⟩ <;> cases ht

/-- The problem of a path that is absent. -/
theorem IsAbsent.propertyProblem? {f : String × Value} (h : s.IsAbsent f) :
    propertyProblem? f = some (.wrongType .null "type \"string\"" ("/" ++ f.1)) := by
  rcases h with ⟨rfl, -⟩ | ⟨rfl, -⟩ <;> rfl

/-! ## Reading it back -/

section Read

variable (htimeout : s.timeout ≠ 0) (hlength : s.maxCommandLength ≠ 0) (hjobs : s.jobs ≠ 0)
include htimeout hlength hjobs

/-- With both paths the text says what the settings are. -/
theorem ofText_text_of_present (hlinter : s.linter ≠ none) (hconfig : s.configFile ≠ none) :
    ofText s.text = .ok { s with baseDir := none } := by
  have hwords : ∀ f ∈ Relaxed.sortFields s.members, FieldOf IsWord f := by
    intro f hf
    have hf := (Relaxed.mem_sortFields_iff s.nodup_members f).mp hf
    rcases fieldOf_members htimeout hlength hjobs f hf with hword | ⟨-, hnone⟩ | ⟨-, hnone⟩
    · exact hword
    · exact absurd hnone hconfig
    · exact absurd hnone hlinter
  rw [ofText_of_parse s.parse_text, document, Option.getD_some]
  rcases ofValue_cases (Relaxed.delivered_of_parse s.parse_text) with
    ⟨_, s', ⟨rfl⟩, hs', -, hdescribes⟩ | ⟨fault, -, hrefused⟩
  · rw [hs', hdescribes.unique s.describes_members]
  · exact absurd ⟨_, rfl, hwords⟩ hrefused.not_document

/-- Without one of the paths the text breaks the schema there. -/
theorem ofText_text_of_absent (h : s.linter = none ∨ s.configFile = none) :
    ∃ f, s.IsAbsent f ∧ ofText s.text =
      .error (.invalid (.wrongType .null "type \"string\"" ("/" ++ f.1))) := by
  have hmem (f : String × Value) : f ∈ Relaxed.sortFields s.members ↔ f ∈ s.members :=
    Relaxed.mem_sortFields_iff s.nodup_members f
  obtain ⟨f, hf, habsent⟩ : ∃ f ∈ s.members, s.IsAbsent f := by
    rcases h with h | h
    · exact ⟨("linter_path", .null), by simp [members, h, Value.stringOrNull], Or.inr ⟨rfl, h⟩⟩
    · exact ⟨("config_file", .null), by simp [members, h, Value.stringOrNull], Or.inl ⟨rfl, h⟩⟩
  rw [ofText_of_parse s.parse_text, document, Option.getD_some]
  rcases ofValue_cases (Relaxed.delivered_of_parse s.parse_text) with
    ⟨_, s', ⟨rfl⟩, -, hwords, -⟩ | ⟨fault, hfault, hrefused⟩
  · exact absurd (hwords f ((hmem f).mpr hf)) (habsent.not_fieldOf IsWord)
  rw [hfault]
  cases hrefused with
  | notHeldAsInteger keeps _ _ =>
    exact absurd (keeps f ((hmem f).mpr hf)) (habsent.not_fieldOf IsCount)
  | invalid breaks problem_eq =>
    obtain ⟨g, hg, hproblem⟩ := List.exists_of_findSome?_eq_some problem_eq
    rcases fieldOf_members htimeout hlength hjobs g ((hmem g).mp hg) with hword | habsent
    · have hnone := (propertyProblem?_eq_none_iff g).mpr (hword.imp fun _ => IsWord.isCount)
      rw [hnone] at hproblem
      cases hproblem
    · rw [habsent.propertyProblem?] at hproblem
      obtain rfl := Option.some.inj hproblem
      exact ⟨g, habsent, rfl⟩

end Read

/-- Settings with positive counts that have been written are read back if both paths are there, and
then only the directory that they were found in is lost. Without one of the paths the schema asks
for a string in the place of null. This is also what becomes of the settings of an empty
document. -/
theorem ofText_text (htimeout : s.timeout ≠ 0) (hlength : s.maxCommandLength ≠ 0)
    (hjobs : s.jobs ≠ 0) :
    ((∃ s', ofText s.text = .ok s') ↔ s.linter ≠ none ∧ s.configFile ≠ none) ∧
    (s.linter ≠ none → s.configFile ≠ none → ofText s.text = .ok { s with baseDir := none }) ∧
    (s.linter = none ∨ s.configFile = none → ∃ f, s.IsAbsent f ∧ ofText s.text =
      .error (.invalid (.wrongType .null "type \"string\"" ("/" ++ f.1)))) ∧
    ∀ empty, Relaxed.parse empty = .ok none → ∃ s', ofText empty = .ok s' ∧
      ∃ f, s'.IsAbsent f ∧ ofText s'.text =
        .error (.invalid (.wrongType .null "type \"string\"" ("/" ++ f.1))) := by
  have hpresent := ofText_text_of_present htimeout hlength hjobs
  have habsent := ofText_text_of_absent htimeout hlength hjobs
  refine ⟨⟨fun ⟨s', hs'⟩ => ?_, fun h => ⟨_, hpresent h.1 h.2⟩⟩, hpresent, habsent, ?_⟩
  · by_contra hnot
    obtain ⟨f, -, hf⟩ := habsent (by rwa [not_and_or, not_not, not_not] at hnot)
    rw [hf] at hs'
    cases hs'
  · intro empty hempty
    have hdefault : ofText empty = .ok {} := by rw [ofText, hempty]; rfl
    exact ⟨{}, hdefault, ofText_text_of_absent (by decide) (by decide) (by decide) (Or.inl rfl)⟩

/-- Settings with a quote, a control character and a letter beyond ASCII in their paths. -/
def spelled : Settings where
  linter := some "l\u0001.js"
  configFile := some "\"c\".json"
  rulesDir := some "règles"
  launcher := none
  timeout := 18446744073709551615
  files := some ["a.js", "\t"]
  baseDir := some [46]

/-- They are read back, and their counts are positive. -/
theorem ofText_spelled_text :
    (spelled.timeout ≠ 0 ∧ spelled.maxCommandLength ≠ 0 ∧ spelled.jobs ≠ 0) ∧
    ofText spelled.text = .ok { spelled with baseDir := none } ∧
    ∃ f, ({ spelled with linter := none } : Settings).IsAbsent f ∧
      ofText ({ spelled with linter := none } : Settings).text =
        .error (.invalid (.wrongType .null "type \"string\"" ("/" ++ f.1))) :=
  ⟨⟨by decide, by decide, by decide⟩,
    (ofText_text (s := spelled) (by decide) (by decide) (by decide)).2.1 (by simp [spelled])
      (by simp [spelled]),
    (ofText_text (s := { spelled with linter := none }) (by decide) (by decide)
      (by decide)).2.2.1 (Or.inl rfl)⟩

end LintDispatch.Settings
