import LintDispatch.CommandLine.Program

/-!
# The task of a request
A request comes down to a task in three stages, and each of them may fail: its settings are loaded,
the configuration is resolved, and the files are selected. Linting that is switched off is noticed
by the second stage, and then no files are selected. `Program.task_resolves` is the only place that
looks into the stages; it also says that a configuration which comes out of them can drive a run.
-/

namespace LintDispatch

open Arguments (Request)

namespace Overrides

theorem exists_of_bind_eq_ok {α β : Type} {m : Except ProgramError α}
    {k : α → Except ProgramError β} {b : β} (h : (m >>= k) = .ok b) :
    ∃ a, m = .ok a ∧ k a = .ok b := by
  cases m with
  | error e => cases h
  | ok a => exact ⟨a, rfl, h⟩

/-- What overrides make of settings: a path is taken from them or from the settings, and what
cannot be given on the command line stays. -/
theorem apply_eq_ok {o : Overrides} {s s' : Settings} {dir : Path} (h : o.apply s dir = .ok s') :
    ∃ linter configFile rulesDir, pathOr s dir o.linter s.linter = .ok linter ∧
      pathOr s dir o.linterConfig s.configFile = .ok configFile ∧
      pathOr s dir o.rulesDir s.rulesDir = .ok rulesDir ∧
      s' = { s with
        linter := linter
        configFile := configFile
        rulesDir := rulesDir
        timeout := o.timeout.getD s.timeout
        launcher := if o.noLauncher then none else o.launcher.or s.launcher
        maxCommandLength := o.maxCommandLength.getD s.maxCommandLength
        jobs := o.jobs.getD s.jobs } := by
  obtain ⟨linter, hlinter, h⟩ := exists_of_bind_eq_ok h
  obtain ⟨configFile, hconfig, h⟩ := exists_of_bind_eq_ok h
  obtain ⟨rulesDir, hrules, h⟩ := exists_of_bind_eq_ok h
  exact ⟨linter, configFile, rulesDir, hlinter, hconfig, hrules, (Except.ok.inj h).symm⟩

/-- Overrides do not switch the linter on or off. -/
theorem enabled_of_apply {o : Overrides} {s s' : Settings} {dir : Path}
    (h : o.apply s dir = .ok s') : s'.enabled = s.enabled := by
  obtain ⟨_, _, _, -, -, -, rfl⟩ := apply_eq_ok h
  rfl

end Overrides

namespace Settings

/-- Settings that are switched on either fail or name a configuration that can drive a run. -/
theorem config?_cases (s : Settings) :
    (s.enabled = false ∧ s.config? = .ok none) ∨
      s.enabled = true ∧ ((∃ e, s.config? = .error e) ∨
        ∃ config, config.Valid ∧ s.config? = .ok (some config)) := by
  unfold config?
  cases s.enabled with
  | false => exact Or.inl ⟨rfl, rfl⟩
  | true =>
    refine Or.inr ⟨rfl, ?_⟩
    cases s.linter with
    | none => exact Or.inl ⟨_, rfl⟩
    | some linter =>
      cases s.configFile with
      | none => exact Or.inl ⟨_, rfl⟩
      | some configFile =>
        simp only [Bool.not_true, Bool.false_eq_true, if_false]
        generalize hconfig : Config.mk .. = config
        cases hcheck : config.check with
        | error e => exact Or.inl ⟨e, rfl⟩
        | ok u => exact Or.inr ⟨config, Config.check_eq_ok_iff.mp hcheck, rfl⟩

theorem configWith?_cases (s : Settings) (o : Overrides) (dir : Path) :
    (∃ e, s.configWith? o dir = .error e) ∨
      (s.enabled = false ∧ s.configWith? o dir = .ok none) ∨
      s.enabled = true ∧ ∃ config, config.Valid ∧ s.configWith? o dir = .ok (some config) := by
  unfold configWith?
  cases happly : o.apply s dir with
  | error e => exact Or.inl ⟨e, rfl⟩
  | ok s' =>
    rw [← Overrides.enabled_of_apply happly]
    rcases s'.config?_cases with ⟨hoff, hnone⟩ | ⟨hon, ⟨e, herror⟩ | ⟨config, hv, hsome⟩⟩
    · exact Or.inr (Or.inl ⟨hoff, by simp only [hnone]; rfl⟩)
    · exact Or.inl ⟨_, by simp only [herror]; rfl⟩
    · exact Or.inr (Or.inr ⟨hon, config, hv, by simp only [hsome]; rfl⟩)

/-- A configuration is that of the settings with the overrides. -/
theorem exists_of_configWith?_eq_some {s : Settings} {o : Overrides} {dir : Path} {config : Config}
    (h : s.configWith? o dir = .ok (some config)) :
    ∃ s', o.apply s dir = .ok s' ∧ s'.config? = .ok (some config) := by
  rw [configWith?] at h
  cases happly : o.apply s dir with
  | error e =>
    rw [happly] at h
    cases h
  | ok s' =>
    refine ⟨s', rfl, ?_⟩
    rw [happly] at h
    replace h : s'.config?.mapError ProgramError.failure = .ok (some config) := h
    cases hconfig : s'.config? with
    | error e =>
      rw [hconfig] at h
      cases h
    | ok c =>
      rw [hconfig] at h
      rw [Except.ok.inj h]

end Settings

namespace Program

/-- What the stages make of a request. -/
inductive Resolves (fs : FileSystem) (r : Request) : Except ProgramError Task → Prop
  /-- The settings could not be loaded. -/
  | unloaded {e : ProgramError} (load : loadSettings fs r.settings = .error e) :
      Resolves fs r (.error e)
  /-- The configuration could not be resolved. -/
  | unresolved {settings : Settings} {e : ProgramError}
      (load : loadSettings fs r.settings = .ok settings)
      (resolve : settings.configWith? r.overrides fs.workingPath = .error e) :
      Resolves fs r (.error e)
  /-- The settings switch the linter off. -/
  | disabled {settings : Settings} (load : loadSettings fs r.settings = .ok settings)
      (resolve : settings.configWith? r.overrides fs.workingPath = .ok none)
      (disabled : settings.enabled = false) : Resolves fs r (.ok .nothing)
  /-- There were no files. -/
  | unselected {settings : Settings} {config : Config} {e : ProgramError}
      (load : loadSettings fs r.settings = .ok settings)
      (resolve : settings.configWith? r.overrides fs.workingPath = .ok (some config))
      (enabled : settings.enabled = true) (select : settings.filesOr r.files = .error e) :
      Resolves fs r (.error e)
  /-- There is something to lint. -/
  | ready {settings : Settings} {config : Config} {files : List Path}
      (load : loadSettings fs r.settings = .ok settings)
      (resolve : settings.configWith? r.overrides fs.workingPath = .ok (some config))
      (enabled : settings.enabled = true) (valid : config.Valid)
      (select : settings.filesOr r.files = .ok files) : Resolves fs r (.ok (.lint config files))

theorem task_resolves (fs : FileSystem) (r : Request) : Resolves fs r (task fs r) := by
  unfold task
  cases load : loadSettings fs r.settings with
  | error e => exact .unloaded load
  | ok settings =>
    rcases settings.configWith?_cases r.overrides fs.workingPath with
      ⟨e, resolve⟩ | ⟨disabled, resolve⟩ | ⟨enabled, config, valid, resolve⟩
    · simp only [resolve]
      exact .unresolved load resolve
    · simp only [resolve]
      exact .disabled load resolve disabled
    · simp only [resolve]
      cases select : settings.filesOr r.files with
      | error e => exact .unselected load resolve enabled select
      | ok files => exact .ready load resolve enabled valid select

/-- The configuration of a task can drive a run. -/
theorem valid_of_task {fs : FileSystem} {r : Request} {config : Config} {files : List Path}
    (h : task fs r = .ok (.lint config files)) : config.Valid := by
  have resolves := task_resolves fs r
  rw [h] at resolves
  cases resolves with
  | ready _ _ _ valid => exact valid

/-- A request about some files, with a linter of its own and lines of at most 300 bytes. -/
def narrowRequest (files : List Path) : Request where
  action := .plan
  overrides := { linter := some [101], linterConfig := some [99], noLauncher := true,
                 maxCommandLength := some 300 }
  files := files

end Program

end LintDispatch
