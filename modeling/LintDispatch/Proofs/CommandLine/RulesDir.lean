import LintDispatch.Proofs.Settings.Acceptance

/-!
# The rules directory of a command
A command announces a directory with further rules, or it leaves the flag out. A blank directory is
meant to leave it out, and two routes lead to it. An entry of the settings is dropped if it is
blank, before it is resolved. An override is spelled from the working directory first, wherever the
settings have a directory of their own, and then it is blank no longer: by this route the flag
stays.

The fixed arguments are looked at word by word (`Command.words`), so that a value which happens to
be spelled like a flag is not taken for one. `Settings.commands_announce_rulesDir` says which
directory the commands of a configuration announce, for all settings and overrides;
`Settings.blank_override_stays` shows a blank override that is passed on.
-/

namespace LintDispatch

/-! ## The words of a command -/

namespace Command

/-- A fixed argument, by what it is there for. -/
inductive Word where
  /-- Announces what comes next. -/
  | flag (name : String)
  /-- Comes from outside. -/
  | value (bytes : Bytes)
  deriving DecidableEq, Repr

/-- The argument that a word is passed as. -/
def Word.bytes : Word → Bytes
  | flag name => Bytes.ofString name
  | value bytes => bytes

/-- The words about further rules. -/
def rulesWords : Option Path → List Word
  | some dir => [.flag rulesDirFlag, .value dir]
  | none => []

/-- The words before the files. -/
def words (config : Config) (output : Path) : List Word :=
  (config.effectiveLauncher.map fun launcher => .value (Bytes.ofString launcher)).toList ++
    [.value config.linter, .flag formatFlag, .value (Bytes.ofString config.outputFormat)] ++
    rulesWords config.effectiveRulesDir ++
    [.flag outputFileFlag, .value output, .flag configFlag, .value config.configFile]

theorem map_bytes_words (config : Config) (output : Path) :
    (words config output).map Word.bytes = fixedArgs config output := by
  rw [words, fixedArgs]
  cases config.effectiveLauncher <;> cases config.effectiveRulesDir <;> rfl

/-- The words announce this rules directory, once, or none at all. -/
def Announces (ws : List Word) : Option Path → Prop
  | some dir =>
    ws.count (.flag rulesDirFlag) = 1 ∧ [.flag rulesDirFlag, .value dir] <:+: ws
  | none => .flag rulesDirFlag ∉ ws

theorem announces_words (config : Config) (output : Path) :
    Announces (words config output) config.effectiveRulesDir := by
  have hformat : formatFlag ≠ rulesDirFlag := by decide
  have houtput : outputFileFlag ≠ rulesDirFlag := by decide
  have hconfig : configFlag ≠ rulesDirFlag := by decide
  unfold words
  cases config.effectiveRulesDir with
  | none =>
    cases config.effectiveLauncher <;>
      simp [Announces, rulesWords, hformat.symm, houtput.symm, hconfig.symm]
  | some dir =>
    refine ⟨?_, _, _, rfl⟩
    cases config.effectiveLauncher <;> simp [rulesWords, hformat, houtput, hconfig]

/-- A command that is built is the one of its batch. -/
theorem exists_ofBatch_of_build {σ : Type} {request : σ → Except HostError OutputFile × σ}
    {config : Config} {files : List Path} {s : σ} {command : Command}
    (h : (build request config files s).1 = .ok command) :
    ∃ output, command = ofBatch config output files := by
  unfold build at h
  cases hcheck : config.check with
  | error e => simp [hcheck] at h
  | ok u =>
    simp only [hcheck] at h
    split at h
    case isTrue => cases h
    case isFalse =>
      rcases hr : request s with ⟨_ | output, s'⟩
      · simp [hr] at h
      · exact ⟨output, by simpa [hr] using h.symm⟩

end Command

/-! ## Paths from the root -/

theorem FileSystem.isAbsolute_workingPath (fs : FileSystem) :
    fs.workingPath.isAbsolute = true := by
  rw [workingPath, pathOf]
  cases fs.workingDir <;> simp [Path.isAbsolute]

theorem Path.isAbsolute_join {base : Path} (h : base.isAbsolute = true) (p : Path) :
    (join base p).isAbsolute = true := by
  by_cases hp : p.isAbsolute = true
  · rw [join_of_isAbsolute hp, hp]
  cases base with
  | nil => simp [isAbsolute] at h
  | cons b base =>
    simp only [join, hp, List.isEmpty_cons, Bool.false_eq_true, if_false]
    split <;> simpa [isAbsolute] using h

/-! ## The directory that is asked for -/

namespace Overrides

/-- The rules directory that is asked for, resolved. An override is spelled from the working
directory, blank or not, if the settings have a directory of their own; otherwise a blank one counts
as absent, as it does in the settings. -/
def rulesDirFor (o : Overrides) (settings : Settings) (workingDir : Path) : Option Path :=
  match o.rulesDir with
  | some dir =>
    if settings.baseDir.isSome then some (Path.join workingDir dir)
    else if dir.isBlank then none else some dir
  | none => (settings.rulesDir.filter fun dir => !Text.isBlank dir).map settings.resolve

/-- The text of a path that is given on the command line. -/
theorem ofString_of_anchored {s : Settings} {workingDir p : Path} {text : String}
    (h : anchored s workingDir p = .ok text) :
    Bytes.ofString text = if s.baseDir.isSome then Path.join workingDir p else p := by
  have hp : (if !p.isAbsolute && s.baseDir.isSome then Path.join workingDir p else p) =
      if s.baseDir.isSome then Path.join workingDir p else p := by
    cases habs : p.isAbsolute with
    | true => simp [Path.join_of_isAbsolute habs]
    | false => simp
  rw [anchored, hp] at h
  cases hdecode : Utf8.decode? (if s.baseDir.isSome then Path.join workingDir p else p) with
  | none => simp [hdecode] at h
  | some t =>
    obtain rfl : t = text := by simpa [hdecode] using h
    exact (Utf8.ofString_of_decode? hdecode).symm

theorem exists_text_of_pathOr {s : Settings} {workingDir p : Path} {own taken : Option String}
    (h : pathOr s workingDir (some p) own = .ok taken) : ∃ text, taken = some text ∧
      Bytes.ofString text = if s.baseDir.isSome then Path.join workingDir p else p := by
  unfold pathOr at h
  cases htext : anchored s workingDir p with
  | error e => simp [htext, Except.map] at h
  | ok text =>
    have htaken : some text = taken := by simpa [htext, Except.map] using h
    exact ⟨text, htaken.symm, ofString_of_anchored htext⟩

end Overrides

namespace Settings

/-- The rules directory of a configuration is that of its settings, unless it is blank. -/
theorem effectiveRulesDir_of_config? {s : Settings} {config : Config}
    (h : s.config? = .ok (some config)) : config.effectiveRulesDir =
      (s.rulesDir.filter fun dir => !Text.isBlank dir).map s.resolve := by
  obtain ⟨-, linter, configFile, -, -, -, rfl⟩ := config?_eq_some_iff.mp h
  simp only [Config.effectiveRulesDir, draft]
  cases s.rulesDir with
  | none => rfl
  | some dir =>
    cases hdir : Text.isBlank dir <;> simp [Option.filter, hdir, isBlank_resolve, passes]

/-- What the settings make of an override for the rules directory. -/
theorem map_resolve_override (s : Settings) {workingDir p : Path} {text : String}
    (hdir : workingDir.isAbsolute = true)
    (h : Bytes.ofString text = if s.baseDir.isSome then Path.join workingDir p else p) :
    ((some text).filter fun dir => !Text.isBlank dir).map s.resolve =
      if s.baseDir.isSome then some (Path.join workingDir p)
      else if p.isBlank then none else some p := by
  cases hbase : s.baseDir with
  | none =>
    rw [hbase, Option.isSome_none, if_neg (by simp)] at h
    have hresolve : s.resolve text = p := by
      rw [resolve_eq_join, hbase, Option.getD_none, Path.join_nil_left, h]
    have hblank : Text.isBlank text = p.isBlank := by
      rw [← h, Bytes.isBlank_ofString]
    cases hp : p.isBlank <;> simp [Option.filter, hblank, hp, hresolve]
  | some base =>
    rw [hbase, Option.isSome_some, if_pos rfl] at h
    -- The path starts at the root, so neither the base nor the blanks of the override matter.
    have habs : (Path.join workingDir p).isAbsolute = true := Path.isAbsolute_join hdir p
    have hresolve : s.resolve text = Path.join workingDir p := by
      rw [resolve_eq_join, h, Path.join_of_isAbsolute habs]
    have hblank : Text.isBlank text = false := by
      rw [← Bytes.isBlank_ofString, h]
      exact Path.isBlank_of_slash_mem (Path.slash_mem_of_isAbsolute habs)
    simp [Option.filter, hblank, hresolve]

/-- The rules directory of a configuration is the one that is asked for. -/
theorem effectiveRulesDir_of_configWith? {s : Settings} {o : Overrides} {fs : FileSystem}
    {config : Config} (h : s.configWith? o fs.workingPath = .ok (some config)) :
    config.effectiveRulesDir = o.rulesDirFor s fs.workingPath := by
  obtain ⟨s', happly, hconfig⟩ := exists_of_configWith?_eq_some h
  obtain ⟨_, _, rulesDir, -, -, hrules, hs'⟩ := Overrides.apply_eq_ok happly
  have hresolve : s'.resolve = s.resolve := by
    funext entry
    rw [resolve_eq_join, resolve_eq_join, hs']
  have htaken : s'.rulesDir = rulesDir := by rw [hs']
  rw [effectiveRulesDir_of_config? hconfig, hresolve, htaken, Overrides.rulesDirFor]
  cases hgiven : o.rulesDir with
  | none =>
    rw [hgiven] at hrules
    rw [Except.ok.inj hrules]
  | some dir =>
    rw [hgiven] at hrules
    obtain ⟨text, rfl, hbytes⟩ := Overrides.exists_text_of_pathOr hrules
    exact s.map_resolve_override fs.isAbsolute_workingPath hbytes

/-! ## Commands -/

/-- Under any overrides, the commands of the configuration that settings yield announce the rules
directory that is asked for, and without one they have no flag for it. -/
theorem commands_announce_rulesDir {s : Settings} {o : Overrides} {fs : FileSystem}
    {config : Config} (h : s.configWith? o fs.workingPath = .ok (some config)) (files : List Path) :
    (∀ output, (Command.ofBatch config output files).argv =
        (Command.words config output.path).map Command.Word.bytes ++ files ∧
      Command.Announces (Command.words config output.path) (o.rulesDirFor s fs.workingPath)) ∧
    ∀ {σ : Type} (request : σ → Except HostError OutputFile × σ) (state : σ) (command : Command),
      (Command.build request config files state).1 = .ok command →
        ∃ output, command = Command.ofBatch config output files := by
  refine ⟨fun output => ⟨?_, ?_⟩, fun request state command =>
    Command.exists_ofBatch_of_build⟩
  · rw [Command.map_bytes_words, Command.ofBatch]
  · rw [← effectiveRulesDir_of_configWith? h]
    exact Command.announces_words config output.path

/-- Settings from a file in the working directory, with further rules beside it. -/
def besideRules : Settings where
  linter := some "l.js"
  configFile := some "c.json"
  rulesDir := some "rules"
  baseDir := some (Bytes.ofString ".")

/-- The commands of these settings announce their rules. -/
theorem besideRules_announced : ∃ config,
    besideRules.configWith? {} (FileSystem.workingPath {}) = .ok (some config) ∧
      ∀ output : OutputFile, Command.Announces (Command.words config output.path)
        (some (Bytes.ofString "./rules")) := by
  have hconfig : besideRules.configWith? {} (FileSystem.workingPath {}) =
      .ok (some (besideRules.draft "l.js" "c.json")) := by rfl
  exact ⟨_, hconfig, fun output => ((commands_announce_rulesDir hconfig []).1 output).2⟩

/-- A blank rules directory on the command line. -/
def blankRules : Overrides := { rulesDir := some (Bytes.ofString " ") }

/-- Blank rules on the command line switch those of the settings off, unless the settings come from
a file: then the working directory and a blank are announced. -/
theorem blank_override_stays :
    (∃ dir ∈ blankRules.rulesDir, dir.isBlank = true) ∧
    (∃ config, { besideRules with baseDir := none }.configWith? blankRules
        (FileSystem.workingPath {}) = .ok (some config) ∧
      .flag Command.rulesDirFlag ∉ Command.words config []) ∧
    ∃ config, besideRules.configWith? blankRules (FileSystem.workingPath {}) = .ok (some config) ∧
      (Command.build (fun s => (.ok ⟨Bytes.ofString "out", false⟩, s)) config
          [Bytes.ofString "a.js"] ()).1 =
        .ok ⟨["node", "./l.js", "-f", "json", "--rules-dir", "/ ", "--output-file", "out",
          "--config", "./c.json", "a.js"].map Bytes.ofString, ⟨Bytes.ofString "out", false⟩⟩ ∧
      .flag Command.rulesDirFlag ∈ Command.words config [] := by
  refine ⟨⟨_, rfl, by decide +kernel⟩, ⟨_, by rfl, by decide +kernel⟩, _, by rfl, ?_, ?_⟩
  · decide +kernel
  · decide +kernel

end Settings

end LintDispatch
