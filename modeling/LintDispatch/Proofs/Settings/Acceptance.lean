import LintDispatch.Proofs.CommandLine.Task
import LintDispatch.Proofs.Run.Parallel
import LintDispatch.Proofs.Text.Blank

/-!
# Which settings are accepted
Settings name a linter, its configuration and the files, and each of these entries must name
something: a blank one is meant to be refused. The check comes after the entries have been resolved,
though, so it sees the path and not the entry. Without a base directory, or with an empty one, the
two are blank together. Below any other directory no path is blank, and every entry passes
(`isBlank_resolve`).

`acceptance` says what this makes of the settings as a whole: which of them switch the linter off,
which yield a configuration, and which lists of files a run takes. `below_base_blank_accepted` shows
one blank linter and one blank file that a base directory lets through.
-/

namespace LintDispatch

namespace Settings

/-- A directory stands in front of relative paths: the base directory is there and not empty. -/
def hasBase (s : Settings) : Bool := !(s.baseDir.getD []).isEmpty

/-- The entry passes for the name of something. -/
def passes (s : Settings) (entry : String) : Bool := s.hasBase || !Text.isBlank entry

theorem resolve_eq_join (s : Settings) (entry : String) :
    s.resolve entry = Path.join (s.baseDir.getD []) (Bytes.ofString entry) := by
  unfold resolve
  cases s.baseDir with
  | none => exact (Path.join_nil_left _).symm
  | some base =>
    show (if _ then _ else _) = Path.join base _
    split
    case isTrue h => exact (Path.join_of_isAbsolute h).symm
    case isFalse => rfl

/-- A resolved entry is blank exactly if the entry does not pass. -/
theorem isBlank_resolve (s : Settings) (entry : String) :
    (s.resolve entry).isBlank = !s.passes entry := by
  rw [resolve_eq_join, Path.isBlank_join, Bytes.isBlank_ofString]
  simp [passes, hasBase]

/-! ## The configuration -/

theorem config?_eq_none_iff (s : Settings) : s.config? = .ok none ↔ s.enabled = false := by
  rcases s.config?_cases with ⟨hoff, hnone⟩ | ⟨hon, ⟨e, herror⟩ | ⟨config, -, hsome⟩⟩
  · simp [hoff, hnone]
  · simp [hon, herror]
  · simp [hon, hsome]

/-- The configuration of settings with these two paths, before it is checked. -/
def draft (s : Settings) (linter configFile : String) : Config where
  linter := s.resolve linter
  configFile := s.resolve configFile
  rulesDir := (s.rulesDir.filter fun dir => !Text.isBlank dir).map s.resolve
  timeoutPerFile := s.timeout
  launcher := s.launcher
  outputFormat := "json"
  maxCommandLength := s.maxCommandLength
  jobs := max s.jobs 1

theorem valid_draft_iff (s : Settings) (linter configFile : String) :
    (s.draft linter configFile).Valid ↔
      s.passes linter = true ∧ s.passes configFile = true ∧ s.timeout ≠ 0 ∧
        s.maxCommandLength ≠ 0 := by
  have hjson : Text.isBlank "json" = false := by decide
  simp [Config.valid_iff, draft, isBlank_resolve, hjson]

theorem checked_iff (draft config : Config) :
    draft.check.map (fun _ => some draft) = .ok (some config) ↔ draft.Valid ∧ draft = config := by
  rw [← Config.check_eq_ok_iff]
  cases draft.check <;> simp [Except.map]

/-- A configuration that settings yield is the draft of their two paths. -/
theorem config?_eq_some_iff {s : Settings} {config : Config} :
    s.config? = .ok (some config) ↔ s.enabled = true ∧ ∃ linter configFile,
      s.linter = some linter ∧ s.configFile = some configFile ∧
        (s.draft linter configFile).Valid ∧ s.draft linter configFile = config := by
  unfold config?
  cases s.enabled with
  | false => simp
  | true =>
    cases s.linter with
    | none => simp
    | some linter =>
      cases s.configFile with
      | none => simp
      | some configFile =>
        refine (checked_iff (s.draft linter configFile) config).trans ?_
        simp

/-- Settings yield a configuration if they are switched on, their limits are positive, and both
paths are there and pass. -/
theorem exists_config?_iff (s : Settings) :
    (∃ config, s.config? = .ok (some config)) ↔
      s.enabled = true ∧ s.timeout ≠ 0 ∧ s.maxCommandLength ≠ 0 ∧
        (∃ linter, s.linter = some linter ∧ s.passes linter = true) ∧
        ∃ configFile, s.configFile = some configFile ∧ s.passes configFile = true := by
  simp only [config?_eq_some_iff, valid_draft_iff]
  constructor
  · rintro ⟨_, hon, linter, configFile, hlinter, hconfig, ⟨hl, hc, ht, hm⟩, -⟩
    exact ⟨hon, ht, hm, ⟨linter, hlinter, hl⟩, configFile, hconfig, hc⟩
  · rintro ⟨hon, ht, hm, ⟨linter, hlinter, hl⟩, configFile, hconfig, hc⟩
    exact ⟨_, hon, linter, configFile, hlinter, hconfig, ⟨hl, hc, ht, hm⟩, rfl⟩

/-! ## The files -/

/-- A run takes the entries of a list if they pass. -/
theorem checkInputs_resolve_iff (s : Settings) {config : Config} (hv : config.Valid)
    (entries : List String) :
    checkInputs config (entries.map s.resolve) = .ok () ↔
      ∀ entry ∈ entries, s.passes entry = true := by
  rw [Executor.checkInputs_eq_ok_iff]
  simp [hv, isBlank_resolve]

/-- The first entry that does not pass is named. -/
theorem checkInputs_resolve_eq_error (s : Settings) {config : Config} (hv : config.Valid)
    {entries : List String} {i : Nat}
    (h : entries.findIdx? (fun entry => !s.passes entry) = some i) :
    checkInputs config (entries.map s.resolve) =
      .error (.invalidArgument ("file path at position " ++ toString i ++ " is blank")) := by
  have hblank : (entries.map s.resolve).findIdx? Bytes.isBlank = some i := by
    rw [List.findIdx?_map, ← h]
    congr 1
    exact funext s.isBlank_resolve
  rw [checkInputs, Config.check_eq_ok_iff.mpr hv]
  simp only [hblank]

/-! ## Acceptance -/

variable {ρ τ : Type}

/-- What is accepted of settings. They switch the linter off if they say so, and else they yield a
configuration exactly if their limits are positive and both paths pass. A run under any
configuration takes the files they list if each entry passes; else it is refused with the position
of the first one that does not, and nothing is done. An entry passes below a base directory whatever
it holds, and elsewhere if it is not blank. -/
theorem acceptance (s : Settings) (x : Executor ρ τ) :
    (s.config? = .ok none ↔ s.enabled = false) ∧
    ((∃ config, s.config? = .ok (some config)) ↔
      s.enabled = true ∧ s.timeout ≠ 0 ∧ s.maxCommandLength ≠ 0 ∧
        (∃ linter, s.linter = some linter ∧ s.passes linter = true) ∧
        ∃ configFile, s.configFile = some configFile ∧ s.passes configFile = true) ∧
    ∀ entries, s.files = some entries → ∀ config : Config, config.Valid →
      ∃ paths, s.resolvedFiles = some paths ∧
        (checkInputs config paths = .ok () ↔ ∀ entry ∈ entries, s.passes entry = true) ∧
        ∀ i, entries.findIdx? (fun entry => !s.passes entry) = some i → ∀ mode session,
          x.lint mode config paths session = (.error (.invalidArgument
            ("file path at position " ++ toString i ++ " is blank")), session) := by
  refine ⟨s.config?_eq_none_iff, s.exists_config?_iff, ?_⟩
  intro entries hfiles config hv
  refine ⟨entries.map s.resolve, by rw [resolvedFiles, hfiles]; rfl,
    s.checkInputs_resolve_iff hv entries, ?_⟩
  intro i hi mode session
  exact Executor.lint_of_checkInputs_eq_error (s.checkInputs_resolve_eq_error hv hi) x mode session

/-- Settings with a blank linter and a blank file. -/
def blankEntries : Settings where
  linter := some " "
  configFile := some "c.json"
  files := some ["a.js", "\t"]

/-- The same settings below the working directory. -/
def blankEntriesBelow : Settings := { blankEntries with baseDir := some (Bytes.ofString ".") }

/-- Nothing is done about a list with a blank file that stands below no directory. -/
theorem blankEntries_refused :
    blankEntries.files = some ["a.js", "\t"] ∧ Plan.narrow.Valid ∧
    ∃ paths, blankEntries.resolvedFiles = some paths ∧ ∀ mode session,
      Executor.failsOnce.lint mode Plan.narrow paths session =
        (.error (.invalidArgument "file path at position 1 is blank"), session) := by
  have hv : Plan.narrow.Valid := by decide +kernel
  refine ⟨rfl, hv, ?_⟩
  obtain ⟨paths, hpaths, -, hrefused⟩ :=
    (acceptance blankEntries Executor.failsOnce).2.2 ["a.js", "\t"] rfl Plan.narrow hv
  exact ⟨paths, hpaths, hrefused 1 (by decide)⟩

/-- Blank entries are refused, unless they stand below a directory. -/
theorem below_base_blank_accepted :
    (∃ linter ∈ blankEntriesBelow.linter, Text.isBlank linter = true) ∧
    (∃ files ∈ blankEntriesBelow.files, ∃ entry ∈ files, Text.isBlank entry = true) ∧
    blankEntries.config? =
      .error (.invalidConfiguration "linter path must not be blank") ∧
    ∃ config, blankEntriesBelow.config? = .ok (some config) ∧
      ∃ paths, blankEntriesBelow.resolvedFiles = some paths ∧
        checkInputs config paths = .ok () :=
  ⟨⟨" ", by rfl, by decide⟩, ⟨["a.js", "\t"], by rfl, "\t", by simp, by decide⟩, by rfl,
    _, by rfl, _, by rfl, by decide +kernel⟩

end Settings

end LintDispatch
