import LintDispatch.Proofs.Decimal.Value
import LintDispatch.Proofs.Relaxed.Delivery
import LintDispatch.Settings.Basic

/-!
# Which documents are settings
A document passes two checks before it is settings. The schema asks what its values are, and of a
number it asks the value only; the reading of the document asks how the number is held. `IsCount`
and `IsWord` are the two answers for a count, and with either of them `FieldOf` says which fields a
document may have. A number with a point that is an integer all the same is a count and no word, so
the document keeps to the schema and is refused afterwards.

`Describes` tells what a document says about each of the settings, and what holds where it says
nothing.
`ofText_eq_ok_iff_describes` puts these together.
-/

namespace LintDispatch

namespace Json

/-- What a number stands for. -/
def Number.value : Number → ℚ
  | .int n => n
  | .float x => x.value

@[simp] theorem Number.value_int (n : Int) : (Number.int n).value = n := rfl

@[simp] theorem Number.value_float (x : Binary64) : (Number.float x).value = x.value := rfl

end Json

namespace Settings

open Json (Value Number)

/-! ## Counts -/

theorem isInteger_iff (n : Number) : isInteger n = true ↔ ∃ k : ℤ, n.value = k := by
  cases n with
  | int n => exact iff_of_true rfl ⟨n, rfl⟩
  | float x => exact x.isInteger_iff

theorem belowOne_iff (n : Number) : belowOne n = true ↔ n.value < 1 := by
  cases n with
  | int n =>
    rw [belowOne, decide_eq_true_iff, Number.value_int]
    exact_mod_cast Iff.rfl
  | float x => exact_mod_cast x.ltNat_iff 1

/-- The value is an integer from one up, however it is held. -/
def IsCount (v : Value) : Prop :=
  ∃ n : Number, v = .number n ∧ (∃ k : ℤ, n.value = k) ∧ 1 ≤ n.value

/-- The value is an integer from one up that is held as one and fits 64 bits. -/
def IsWord (v : Value) : Prop := ∃ n : UInt64, 1 ≤ n ∧ v = .nat n.toNat

theorem isCount_int_iff {n : Int} : IsCount (.number (.int n)) ↔ 1 ≤ n := by
  constructor
  · rintro ⟨_, ⟨rfl⟩, -, hone⟩
    rw [Number.value_int] at hone
    exact_mod_cast hone
  · intro h
    refine ⟨_, rfl, ⟨n, rfl⟩, ?_⟩
    rw [Number.value_int]
    exact_mod_cast h

theorem IsWord.isCount {v : Value} (h : IsWord v) : IsCount v := by
  obtain ⟨n, hn, rfl⟩ := h
  have hn : 1 ≤ n.toNat := hn
  exact isCount_int_iff.mpr (by omega)

/-- A count that is held as an integer and comes out of a text is a word. -/
theorem isWord_of_isCount {n : Int} (h : IsCount (.number (.int n)))
    (hdelivered : Relaxed.Delivered (.number (.int n))) :
    1 ≤ UInt64.ofNat n.toNat ∧ Value.number (.int n) = .nat (UInt64.ofNat n.toNat).toNat := by
  have hone := isCount_int_iff.mp h
  have hlt := hdelivered.lt
  have htoNat : (UInt64.ofNat n.toNat).toNat = n.toNat := by
    rw [UInt64.toNat_ofNat', Nat.mod_eq_of_lt (by omega)]
  refine ⟨?_, ?_⟩
  · rw [UInt64.le_iff_toNat_le, htoNat]
    exact Int.le_toNat (by omega) |>.mpr hone
  · rw [htoNat, Value.nat, Int.toNat_of_nonneg (by omega)]

/-! ## Fields -/

/-- The fields that settings may have; `Count` tells which values pass for counts. -/
inductive FieldOf (Count : Value → Prop) : String × Value → Prop
  | text {name : String} (mem : name ∈ ["$schema", "linter_path", "config_file"]) (s : String) :
      FieldOf Count (name, .string s)
  | textOrNull {name : String} (mem : name ∈ ["rules_dir", "launcher"]) (s : Option String) :
      FieldOf Count (name, .stringOrNull s)
  | truth (b : Bool) : FieldOf Count ("enabled", .bool b)
  | count {name : String} (mem : name ∈ ["jobs", "max_command_length", "timeout_ms"]) {v : Value}
      (count : Count v) : FieldOf Count (name, v)
  | texts (fs : List String) : FieldOf Count ("files", .list (fs.map .string))

/-- The value is an object of such fields. -/
def Document (Count : Value → Prop) (v : Value) : Prop :=
  ∃ fields, v = .object fields ∧ ∀ f ∈ fields, FieldOf Count f

theorem FieldOf.imp {Count Count' : Value → Prop} {f : String × Value} (h : FieldOf Count f)
    (himp : f.1 ∈ ["jobs", "max_command_length", "timeout_ms"] → Count f.2 → Count' f.2) :
    FieldOf Count' f := by
  cases h with
  | text mem s => exact .text mem s
  | textOrNull mem s => exact .textOrNull mem s
  | truth b => exact .truth b
  | count mem count => exact .count mem (himp mem count)
  | texts fs => exact .texts fs

/-- The values of a kind. -/
def Kind.Holds (Count : Value → Prop) : Kind → Value → Prop
  | text, v => ∃ s, v = .string s
  | textOrNull, v => ∃ s, v = .stringOrNull s
  | truth, v => ∃ b, v = .bool b
  | count, v => Count v
  | texts, v => ∃ fs : List String, v = .list (fs.map .string)

/-- The table of the properties has the fields that settings may have. -/
theorem fieldOf_iff {Count : Value → Prop} {k : String} {v : Value} :
    FieldOf Count (k, v) ↔ ∃ kind, properties.lookup k = some kind ∧ kind.Holds Count v := by
  constructor
  · intro h
    cases h with
    | text mem s =>
      simp only [List.mem_cons, List.not_mem_nil, or_false] at mem
      rcases mem with rfl | rfl | rfl <;> exact ⟨.text, rfl, s, rfl⟩
    | textOrNull mem s =>
      simp only [List.mem_cons, List.not_mem_nil, or_false] at mem
      rcases mem with rfl | rfl <;> exact ⟨.textOrNull, rfl, s, rfl⟩
    | truth b => exact ⟨.truth, rfl, b, rfl⟩
    | count mem count =>
      simp only [List.mem_cons, List.not_mem_nil, or_false] at mem
      rcases mem with rfl | rfl | rfl <;> exact ⟨.count, rfl, count⟩
    | texts fs => exact ⟨.texts, rfl, fs, rfl⟩
  · rintro ⟨kind, hlookup, hv⟩
    have hmem : (k, kind) ∈ properties := by
      obtain ⟨l, l', heq, -⟩ := List.lookup_eq_some_iff.mp hlookup
      rw [heq]
      simp
    cases kind with
    | text =>
      obtain ⟨s, rfl⟩ := hv
      exact .text (by simpa [properties] using hmem) s
    | textOrNull =>
      obtain ⟨s, rfl⟩ := hv
      exact .textOrNull (by simpa [properties] using hmem) s
    | truth =>
      obtain ⟨b, rfl⟩ := hv
      obtain rfl : k = "enabled" := by simpa [properties] using hmem
      exact .truth b
    | count => exact .count (by simpa [properties, or_comm, or_left_comm] using hmem) hv
    | texts =>
      obtain ⟨fs, rfl⟩ := hv
      obtain rfl : k = "files" := by simpa [properties] using hmem
      exact .texts fs

/-- The value of a field is of the kind that its name has. -/
theorem FieldOf.holds {Count : Value → Prop} {name : String} {v : Value} {kind : Kind}
    (h : FieldOf Count (name, v)) (hkind : properties.lookup name = some kind) :
    kind.Holds Count v := by
  obtain ⟨kind', hkind', hv⟩ := fieldOf_iff.mp h
  obtain rfl := Option.some.inj (hkind.symm.trans hkind')
  exact hv

/-! ## The schema -/

theorem textsProblem?_eq_none_iff (place : String) : ∀ (i : Nat) (vs : List Value),
    textsProblem? place i vs = none ↔ ∃ fs : List String, vs = fs.map .string
  | _, [] => iff_of_true rfl ⟨[], rfl⟩
  | i, v :: vs => by
    cases v with
    | string s =>
      rw [textsProblem?, textsProblem?_eq_none_iff place (i + 1) vs]
      constructor
      · rintro ⟨fs, rfl⟩
        exact ⟨s :: fs, rfl⟩
      · rintro ⟨_ | ⟨s', fs⟩, h⟩
        · cases h
        · exact ⟨fs, (List.cons.inj h).2⟩
    | _ =>
      refine iff_of_false (by simp [textsProblem?]) ?_
      rintro ⟨_ | ⟨s', fs⟩, h⟩ <;> cases h

/-- The schema finds nothing wrong with the values of a kind and with no others. -/
theorem Kind.problem?_eq_none_iff (place : String) (kind : Kind) (v : Value) :
    kind.problem? place v = none ↔ kind.Holds IsCount v := by
  cases kind with
  | text => cases v <;> simp [Kind.problem?, Kind.Holds]
  | textOrNull =>
    have hnull : ∃ s, Value.null = .stringOrNull s := ⟨none, rfl⟩
    have hstring (t : String) : ∃ s, Value.string t = .stringOrNull s := ⟨some t, rfl⟩
    have hnot {v : Value} (hn : v ≠ .null) (hs : ∀ t, v ≠ .string t) :
        ¬∃ s, v = .stringOrNull s := by
      rintro ⟨_ | t, rfl⟩
      · exact hn rfl
      · exact hs t rfl
    cases v <;> simp [Kind.problem?, Kind.Holds, hnull, hstring, hnot]
  | truth => cases v <;> simp [Kind.problem?, Kind.Holds]
  | count =>
    cases v with
    | number n =>
      have hcount : IsCount (.number n) ↔ isInteger n = true ∧ belowOne n = false := by
        rw [isInteger_iff, ← Bool.not_eq_true, belowOne_iff, not_lt]
        simp [IsCount]
      rw [Kind.Holds, hcount, Kind.problem?]
      cases isInteger n <;> cases belowOne n <;> simp
    | _ => simp [Kind.problem?, Kind.Holds, IsCount]
  | texts =>
    cases v with
    | list vs =>
      simp only [Kind.problem?, textsProblem?_eq_none_iff, Kind.Holds, Value.list.injEq]
    | _ => simp [Kind.problem?, Kind.Holds]

/-- The schema finds nothing wrong with the fields that settings may have and with no others. -/
theorem propertyProblem?_eq_none_iff (f : String × Value) :
    propertyProblem? f = none ↔ FieldOf IsCount f := by
  rw [fieldOf_iff, propertyProblem?]
  cases properties.lookup f.1 with
  | none => simp
  | some kind => simp [Kind.problem?_eq_none_iff]

theorem problem?_eq_none_iff (v : Value) : problem? v = none ↔ Document IsCount v := by
  cases v with
  | object fields => simp [problem?, Document, propertyProblem?_eq_none_iff]
  | _ => simp [problem?, Document]

/-! ## What a document says -/

variable {α : Type} {fields : List (String × Value)}

/-- What fields say about a setting: it is the value of its name, or what holds without one. -/
structure Tells (fields : List (String × Value)) (name : String) (json : α → Value)
    (absent a : α) : Prop where
  value_eq : ∀ v, (name, v) ∈ fields → v = json a
  absent_eq : (∀ v, (name, v) ∉ fields) → a = absent

/-- A value under a name of its own is what fields say about it. -/
theorem tells_of_mem (hnodup : (fields.map Prod.fst).Nodup) {name : String} {json : α → Value}
    {a : α} (h : (name, json a) ∈ fields) (absent : α) : Tells fields name json absent a :=
  ⟨fun _ hv => congrArg Prod.snd (List.inj_on_of_nodup_map hnodup hv h rfl),
    fun hnone => absurd h (hnone _)⟩

/-- The files as a value. -/
def filesValue (files : Option (List String)) : Value :=
  files.elim .null fun fs => .list (fs.map .string)

/-- What fields say about the settings. They say nothing about where they were found. -/
structure Describes (fields : List (String × Value)) (s : Settings) : Prop where
  enabled : Tells fields "enabled" .bool true s.enabled
  linter : Tells fields "linter_path" .stringOrNull none s.linter
  configFile : Tells fields "config_file" .stringOrNull none s.configFile
  rulesDir : Tells fields "rules_dir" .stringOrNull none s.rulesDir
  timeout : Tells fields "timeout_ms" (fun n => .nat n.toNat) 60000 s.timeout
  launcher : Tells fields "launcher" .stringOrNull (some "node") s.launcher
  maxCommandLength :
    Tells fields "max_command_length" (fun n => .nat n.toNat) 4096 s.maxCommandLength
  jobs : Tells fields "jobs" (fun n => .nat n.toNat) 1 s.jobs
  files : Tells fields "files" filesValue none s.files
  baseDir : s.baseDir = none

/-- Fields say one thing about a setting. -/
theorem Tells.unique {name : String} {json : α → Value} {absent a b : α}
    (h : Tells fields name json absent a) (h' : Tells fields name json absent b)
    (hjson : Function.Injective json) : a = b := by
  by_cases hname : ∃ v, (name, v) ∈ fields
  · obtain ⟨v, hv⟩ := hname
    exact hjson ((h.value_eq v hv).symm.trans (h'.value_eq v hv))
  · have hname := not_exists.mp hname
    rw [h.absent_eq hname, h'.absent_eq hname]

theorem stringOrNull_injective : Function.Injective Value.stringOrNull := by
  rintro (_ | s) (_ | t) h
  · rfl
  · cases h
  · cases h
  · rw [Value.string.inj h]

theorem filesValue_injective : Function.Injective filesValue := by
  rintro (_ | s) (_ | t) h
  · rfl
  · cases h
  · cases h
  · have hstring : Function.Injective Value.string := fun _ _ => Value.string.inj
    rw [List.map_injective_iff.mpr hstring (Value.list.inj h)]

theorem nat_toNat_injective : Function.Injective fun n : UInt64 => Value.nat n.toNat :=
  fun _ _ h => UInt64.toNat_inj.mp (Int.ofNat.inj (Number.int.inj (Value.number.inj h)))

/-- Fields say one thing. -/
theorem Describes.unique {s s' : Settings} (h : Describes fields s)
    (h' : Describes fields s') : s = s' := by
  obtain ⟨⟩ := s
  obtain ⟨⟩ := s'
  rw [mk.injEq]
  exact ⟨h.enabled.unique h'.enabled fun _ _ => Value.bool.inj,
    h.linter.unique h'.linter stringOrNull_injective,
    h.configFile.unique h'.configFile stringOrNull_injective,
    h.rulesDir.unique h'.rulesDir stringOrNull_injective,
    h.timeout.unique h'.timeout nat_toNat_injective,
    h.launcher.unique h'.launcher stringOrNull_injective,
    h.maxCommandLength.unique h'.maxCommandLength nat_toNat_injective,
    h.jobs.unique h'.jobs nat_toNat_injective,
    h.files.unique h'.files filesValue_injective, h.baseDir.trans h'.baseDir.symm⟩

/-! ## Reading the fields -/

/-- What is found under a name is its one value. -/
theorem lookup_cases (hnodup : (fields.map Prod.fst).Nodup) (name : String) :
    (∃ v, fields.lookup name = some v ∧ ∀ w, (name, w) ∈ fields ↔ w = v) ∨
      fields.lookup name = none ∧ ∀ w, (name, w) ∉ fields := by
  cases h : fields.lookup name with
  | none =>
    refine Or.inr ⟨rfl, fun w hw => ?_⟩
    have := List.lookup_eq_none_iff.mp h _ hw
    simp at this
  | some v =>
    obtain ⟨l, l', heq, -⟩ := List.lookup_eq_some_iff.mp h
    have hmem : (name, v) ∈ fields := by
      rw [heq]
      simp
    refine Or.inl ⟨v, rfl, fun w => ⟨fun hw => ?_, fun hw => hw ▸ hmem⟩⟩
    exact congrArg Prod.snd (List.inj_on_of_nodup_map hnodup hw hmem rfl)

theorem tells_textOf (hnodup : (fields.map Prod.fst).Nodup) {name : String}
    (h : ∀ v, (name, v) ∈ fields → ∃ s, v = .stringOrNull s) (absent : Option String) :
    Tells fields name .stringOrNull absent (textOf fields name absent) := by
  rw [textOf]
  rcases lookup_cases hnodup name with ⟨v, hlookup, hv⟩ | ⟨hlookup, hnone⟩
  · obtain ⟨s, rfl⟩ := h v ((hv v).mpr rfl)
    rw [hlookup]
    refine ⟨fun w hw => ((hv w).mp hw).trans ?_, fun hnone => absurd ((hv _).mpr rfl) (hnone _)⟩
    cases s <;> rfl
  · rw [hlookup]
    exact ⟨fun w hw => absurd hw (hnone w), fun _ => rfl⟩

theorem tells_truthOf (hnodup : (fields.map Prod.fst).Nodup) {name : String}
    (h : ∀ v, (name, v) ∈ fields → ∃ b, v = .bool b) (absent : Bool) :
    Tells fields name .bool absent (truthOf fields name absent) := by
  rw [truthOf]
  rcases lookup_cases hnodup name with ⟨v, hlookup, hv⟩ | ⟨hlookup, hnone⟩
  · obtain ⟨b, rfl⟩ := h v ((hv v).mpr rfl)
    rw [hlookup]
    exact ⟨fun w hw => (hv w).mp hw, fun hnone => absurd ((hv _).mpr rfl) (hnone _)⟩
  · rw [hlookup]
    exact ⟨fun w hw => absurd hw (hnone w), fun _ => rfl⟩

theorem tells_textsOf (hnodup : (fields.map Prod.fst).Nodup) {name : String}
    (h : ∀ v, (name, v) ∈ fields → ∃ fs : List String, v = .list (fs.map .string)) :
    Tells fields name filesValue none (textsOf fields name) := by
  rw [textsOf]
  rcases lookup_cases hnodup name with ⟨v, hlookup, hv⟩ | ⟨hlookup, hnone⟩
  · obtain ⟨fs, rfl⟩ := h v ((hv v).mpr rfl)
    rw [hlookup]
    refine ⟨fun w hw => ((hv w).mp hw).trans ?_, fun hnone => absurd ((hv _).mpr rfl) (hnone _)⟩
    have hstrings : (fs.map Value.string).filterMap stringOf? = fs := by
      rw [List.filterMap_map]
      exact List.filterMap_some
    simp only [hstrings]
    rfl
  · rw [hlookup]
    exact ⟨fun w hw => absurd hw (hnone w), fun _ => rfl⟩

/-- A count is read if it is held as an integer. -/
theorem countOf_cases (hdelivered : Relaxed.Delivered (.object fields)) {name : String}
    (h : ∀ v, (name, v) ∈ fields → IsCount v) (expected : String) (absent : UInt64) :
    (∃ n, countOf fields name expected absent = .ok n ∧
      Tells fields name (fun n : UInt64 => .nat n.toNat) absent n ∧
      ∀ v, (name, v) ∈ fields → IsWord v) ∨
    ∃ x, (name, .number (.float x)) ∈ fields ∧
      countOf fields name expected absent = .error (.notHeldAsInteger x expected) := by
  rw [countOf]
  rcases lookup_cases hdelivered.nodup name with ⟨v, hlookup, hv⟩ | ⟨hlookup, hnone⟩
  · have hmem := (hv v).mpr rfl
    obtain ⟨n, rfl, hn⟩ := h v hmem
    rw [hlookup]
    cases n with
    | float x => exact Or.inr ⟨x, hmem, rfl⟩
    | int n =>
      have hd : Relaxed.Delivered (.number (.int n)) := by
        cases hdelivered with
        | object sorted values => exact values _ hmem
      obtain ⟨hone, hword⟩ := isWord_of_isCount ⟨_, rfl, hn⟩ hd
      refine Or.inl ⟨_, rfl, ⟨fun w hw => ((hv w).mp hw).trans hword, fun hnone => ?_⟩, ?_⟩
      · exact absurd hmem (hnone _)
      · intro w hw
        exact ⟨_, hone, ((hv w).mp hw).trans hword⟩
  · rw [hlookup]
    exact Or.inl ⟨absent, rfl, ⟨fun w hw => absurd hw (hnone w), fun _ => rfl⟩,
      fun w hw => absurd hw (hnone w)⟩

/-! ## Documents -/

/-- Why a value is refused: it breaks the schema, or a count of it is held as a double. -/
inductive Refused : Value → Fault → Prop
  | invalid {v : Value} {problem : Problem} (breaks : ¬Document IsCount v)
      (problem_eq : problem? v = some problem) : Refused v (.invalid problem)
  | notHeldAsInteger {fields : List (String × Value)} {name expected : String} {x : Binary64}
      (keeps : ∀ f ∈ fields, FieldOf IsCount f)
      (mem : (name, expected) ∈
        [("jobs", "usize"), ("max_command_length", "usize"), ("timeout_ms", "u64")])
      (held : (name, .number (.float x)) ∈ fields) :
      Refused (.object fields) (.notHeldAsInteger x expected)

/-- The settings that fields hold, but for the counts. -/
def withCounts (fields : List (String × Value)) (jobs maxCommandLength timeout : UInt64) :
    Settings where
  enabled := truthOf fields "enabled" true
  linter := textOf fields "linter_path" none
  configFile := textOf fields "config_file" none
  rulesDir := textOf fields "rules_dir" none
  timeout := timeout
  launcher := textOf fields "launcher" (some "node")
  maxCommandLength := maxCommandLength
  jobs := jobs
  files := textsOf fields "files"

theorem ofFields_eq (fields : List (String × Value)) : ofFields fields = do
    let jobs ← countOf fields "jobs" "usize" 1
    let maxCommandLength ← countOf fields "max_command_length" "usize" 4096
    let timeout ← countOf fields "timeout_ms" "u64" 60000
    return withCounts fields jobs maxCommandLength timeout :=
  rfl

/-- Fields that keep to the schema are settings if their counts are words, and refused if not. -/
theorem ofFields_cases (hdelivered : Relaxed.Delivered (.object fields))
    (hkeeps : ∀ f ∈ fields, FieldOf IsCount f) :
    (∃ s, ofFields fields = .ok s ∧ (∀ f ∈ fields, FieldOf IsWord f) ∧ Describes fields s) ∨
      ∃ fault, ofFields fields = .error fault ∧ Refused (.object fields) fault := by
  have hnodup := hdelivered.nodup
  have hcount (name : String) (hkind : properties.lookup name = some .count) :
      ∀ v, (name, v) ∈ fields → IsCount v := fun v hv => (hkeeps _ hv).holds hkind
  have htext {name : String} (hkind : properties.lookup name = some .text) :
      ∀ v, (name, v) ∈ fields → ∃ s, v = .stringOrNull s := by
    intro v hv
    obtain ⟨s, rfl⟩ := (hkeeps _ hv).holds hkind
    exact ⟨some s, rfl⟩
  have htextOrNull {name : String} (hkind : properties.lookup name = some .textOrNull) :
      ∀ v, (name, v) ∈ fields → ∃ s, v = .stringOrNull s := fun v hv => (hkeeps _ hv).holds hkind
  have htruth : properties.lookup "enabled" = some .truth := by rfl
  have htexts : properties.lookup "files" = some .texts := by rfl
  rw [ofFields_eq]
  rcases countOf_cases hdelivered (hcount "jobs" (by rfl)) "usize" 1 with
    ⟨jobs, hjobs, tells_jobs, words_jobs⟩ | ⟨x, hmem, hjobs⟩
  swap
  · rw [hjobs]
    exact Or.inr ⟨_, rfl, .notHeldAsInteger hkeeps (by simp) hmem⟩
  rw [hjobs]
  rcases countOf_cases hdelivered (hcount "max_command_length" (by rfl)) "usize" 4096 with
    ⟨length, hlength, tells_length, words_length⟩ | ⟨x, hmem, hlength⟩
  swap
  · rw [hlength]
    exact Or.inr ⟨_, rfl, .notHeldAsInteger hkeeps (by simp) hmem⟩
  rw [hlength]
  rcases countOf_cases hdelivered (hcount "timeout_ms" (by rfl)) "u64" 60000 with
    ⟨timeout, htimeout, tells_timeout, words_timeout⟩ | ⟨x, hmem, htimeout⟩
  swap
  · rw [htimeout]
    exact Or.inr ⟨_, rfl, .notHeldAsInteger hkeeps (by simp) hmem⟩
  rw [htimeout]
  refine Or.inl ⟨withCounts fields jobs length timeout, rfl, ?_, ?_⟩
  · rintro ⟨name, v⟩ hf
    refine (hkeeps _ hf).imp fun mem _ => ?_
    simp only [List.mem_cons, List.not_mem_nil, or_false] at mem
    rcases mem with rfl | rfl | rfl
    · exact words_jobs v hf
    · exact words_length v hf
    · exact words_timeout v hf
  · exact {
      enabled := tells_truthOf hnodup (fun v hv => (hkeeps _ hv).holds htruth) _
      linter := tells_textOf hnodup (htext (by rfl)) _
      configFile := tells_textOf hnodup (htext (by rfl)) _
      rulesDir := tells_textOf hnodup (htextOrNull (by rfl)) _
      timeout := tells_timeout
      launcher := tells_textOf hnodup (htextOrNull (by rfl)) _
      maxCommandLength := tells_length
      jobs := tells_jobs
      files := tells_textsOf hnodup fun v hv => (hkeeps _ hv).holds htexts
      baseDir := rfl }

theorem Document.isCount {v : Value} (h : Document IsWord v) : Document IsCount v := by
  obtain ⟨fields, rfl, hfields⟩ := h
  exact ⟨fields, rfl, fun f hf => (hfields f hf).imp fun _ => IsWord.isCount⟩

/-- What is refused has a field that settings may not have, or a count that is no word. -/
theorem Refused.not_document {v : Value} {fault : Fault} (h : Refused v fault) :
    ¬Document IsWord v := by
  cases h with
  | invalid breaks _ => exact fun h => breaks h.isCount
  | @notHeldAsInteger _ name _ x _ mem held =>
    rintro ⟨_, ⟨rfl⟩, hfields⟩
    have hkind : properties.lookup name = some .count := by
      simp only [List.mem_cons, List.not_mem_nil, or_false, Prod.mk.injEq] at mem
      rcases mem with ⟨rfl, -⟩ | ⟨rfl, -⟩ | ⟨rfl, -⟩ <;> rfl
    obtain ⟨n, -, hn⟩ := (hfields _ held).holds hkind
    cases hn

/-- A value is settings or refused. -/
theorem ofValue_cases {v : Value} (hdelivered : Relaxed.Delivered v) :
    (∃ fields s, v = .object fields ∧ ofValue v = .ok s ∧ (∀ f ∈ fields, FieldOf IsWord f) ∧
      Describes fields s) ∨ ∃ fault, ofValue v = .error fault ∧ Refused v fault := by
  cases hproblem : problem? v with
  | some problem =>
    refine Or.inr ⟨_, by simp only [ofValue, hproblem], .invalid (fun hkeeps => ?_) hproblem⟩
    rw [(problem?_eq_none_iff v).mpr hkeeps] at hproblem
    cases hproblem
  | none =>
    obtain ⟨fields, rfl, hkeeps⟩ := (problem?_eq_none_iff v).mp hproblem
    have hread : ofValue (.object fields) = ofFields fields := by simp only [ofValue, hproblem]
    rw [hread]
    rcases ofFields_cases hdelivered hkeeps with ⟨s, hs, hwords, hdescribes⟩ | hrefused
    · exact Or.inl ⟨fields, s, rfl, hs, hwords, hdescribes⟩
    · exact Or.inr hrefused

/-! ## Texts -/

/-- The document of a text. One that holds no value is an empty object. -/
def document (doc : Option Value) : Value := doc.getD (.object [])

theorem delivered_document {text : String} {doc : Option Value}
    (h : Relaxed.parse text = .ok doc) : Relaxed.Delivered (document doc) := by
  cases doc with
  | none => exact .object .nil (List.forall_mem_nil _)
  | some v => exact Relaxed.delivered_of_parse h

theorem ofText_of_parse {text : String} {doc : Option Value} (h : Relaxed.parse text = .ok doc) :
    ofText text = ofValue (document doc) := by
  rw [ofText, h]
  cases doc <;> rfl

/-- A text whose document has the fields of settings, with words for counts, is the settings that
they tell of, and every other one is refused. A number in decimal is no word if it is written with
more than its digits, or does not fit 64 bits. -/
theorem ofText_eq_ok_iff_describes {text : String} {doc : Option Value}
    (h : Relaxed.parse text = .ok doc) :
    (∀ s, ofText text = .ok s ↔ ∃ fields, document doc = .object fields ∧
      (∀ f ∈ fields, FieldOf IsWord f) ∧ Describes fields s) ∧
    ((∃ s, ofText text = .ok s) ↔ Document IsWord (document doc)) ∧
    (∀ fault, ofText text = .error fault →
      Refused (document doc) fault ∧ ∃ message, fault.failure = .settings message) ∧
    ∀ c number c' n, Relaxed.number c = .ok (.number number, c') → 'x' ∉ number.toList →
      'X' ∉ number.toList → Relaxed.numberValue number = .number (.int n) →
        Relaxed.Plain number n.natAbs ∧ -2 ^ 63 ≤ n ∧ n < 2 ^ 64 := by
  have hdelivered := delivered_document h
  have hheld : ∀ c number c' n, Relaxed.number c = .ok (.number number, c') →
      'x' ∉ number.toList → 'X' ∉ number.toList →
      Relaxed.numberValue number = .number (.int n) →
        Relaxed.Plain number n.natAbs ∧ -2 ^ 63 ≤ n ∧ n < 2 ^ 64 := by
    intro c number c' n hnumber hx hX hvalue
    refine ⟨Relaxed.plain_of_numberValue hnumber hx hX hvalue, ?_⟩
    have hnumber := Relaxed.delivered_numberValue number
    rw [hvalue] at hnumber
    cases hnumber with
    | int le lt => exact ⟨by omega, by omega⟩
  rw [ofText_of_parse h]
  rcases ofValue_cases hdelivered with
    ⟨fields, s, heq, hs, hwords, hdescribes⟩ | ⟨fault, hfault, hrefused⟩
  · rw [hs, heq]
    refine ⟨fun s' => ⟨?_, ?_⟩, iff_of_true ⟨s, rfl⟩ ⟨fields, rfl, hwords⟩, by simp, hheld⟩
    · rintro ⟨rfl⟩
      exact ⟨fields, rfl, hwords, hdescribes⟩
    · rintro ⟨_, ⟨rfl⟩, -, hdescribes'⟩
      rw [hdescribes.unique hdescribes']
  · rw [hfault]
    refine ⟨fun s' => iff_of_false (by simp) ?_, iff_of_false (by simp) hrefused.not_document, ?_,
      hheld⟩
    · rintro ⟨fields, heq, hwords, -⟩
      exact hrefused.not_document ⟨fields, heq, hwords⟩
    · rintro _ ⟨rfl⟩
      exact ⟨hrefused, _, rfl⟩

/-- A text with a comment, a bare key, a comma at the end and the greatest count. -/
def relaxedText : String :=
  "\x7b \"timeout_ms\": 18446744073709551615, /* no launcher */ launcher: null, \x7d"

/-- A text with a count that is written with a point. -/
def pointedText : String := "\x7b\"jobs\": 2.0\x7d"

/-- The first document is settings without a launcher, and the second one is refused. -/
theorem relaxedText_described :
    (∃ doc, Relaxed.parse relaxedText = .ok doc ∧ Document IsWord (document doc) ∧
      ofText relaxedText = .ok { timeout := 18446744073709551615, launcher := none }) ∧
    ∃ doc fault, Relaxed.parse pointedText = .ok doc ∧ Refused (document doc) fault ∧
      fault.message = "Invalid settings: invalid type: floating point `2.0`, expected usize" := by
  have hparse (text : String) (h : (Relaxed.parse text).toOption.isSome = true) :
      ∃ doc, Relaxed.parse text = .ok doc := by
    cases hparse : Relaxed.parse text with
    | ok doc => exact ⟨doc, rfl⟩
    | error f => simp [hparse, Except.toOption] at h
  constructor
  · obtain ⟨doc, hdoc⟩ := hparse relaxedText (by decide +kernel)
    have hsome : (ofText relaxedText).toOption =
        some { timeout := 18446744073709551615, launcher := none } := by decide +kernel
    cases hof : ofText relaxedText with
    | error fault => simp [hof, Except.toOption] at hsome
    | ok s =>
      obtain rfl : s = _ := Option.some.inj (hof ▸ hsome)
      exact ⟨doc, hdoc, (ofText_eq_ok_iff_describes hdoc).2.1.mp ⟨_, hof⟩, rfl⟩
  · obtain ⟨doc, hdoc⟩ := hparse pointedText (by decide +kernel)
    have hmessage : (match ofText pointedText with
        | .ok _ => ""
        | .error fault => fault.message) =
          "Invalid settings: invalid type: floating point `2.0`, expected usize" := by
      decide +kernel
    cases hof : ofText pointedText with
    | ok s => simp [hof] at hmessage
    | error fault =>
      rw [hof] at hmessage
      exact ⟨doc, fault, hdoc, ((ofText_eq_ok_iff_describes hdoc).2.2.1 fault hof).1, hmessage⟩

end Settings

end LintDispatch
