import LintDispatch.Proofs.CommandLine.RulesDir

/-!
# Flags before settings
A flag decides alone about its part of the configuration. What the settings say about that part has
no influence, neither on the result nor on the error if there is none (`Overrides.Agree`), and of
the directory that the settings come from only one thing matters: that there is one.

A path is resolved twice on its way from a flag to the configuration. The first time it is spelled
from the working directory, so it starts at the root by the time it is resolved like an entry of the
settings, and that leaves it alone. Without a directory of the settings both leave it alone
(`Overrides.spelled`). `Settings.flags_win` puts the two together.
-/

namespace LintDispatch

namespace Overrides

/-! ## What the settings are asked for -/

/-- The two settings say the same wherever the overrides leave it to them. -/
structure Agree (o : Overrides) (s t : Settings) : Prop where
  enabled : s.enabled = t.enabled
  files : s.files = t.files
  baseDir : s.baseDir = t.baseDir
  linter : o.linter = none → s.linter = t.linter
  configFile : o.linterConfig = none → s.configFile = t.configFile
  rulesDir : o.rulesDir = none → s.rulesDir = t.rulesDir
  timeout : o.timeout = none → s.timeout = t.timeout
  launcher : o.noLauncher = false → o.launcher = none → s.launcher = t.launcher
  maxCommandLength : o.maxCommandLength = none → s.maxCommandLength = t.maxCommandLength
  jobs : o.jobs = none → s.jobs = t.jobs

theorem anchored_congr {s t : Settings} (h : s.baseDir.isSome = t.baseDir.isSome)
    (workingDir p : Path) : anchored s workingDir p = anchored t workingDir p := by
  simp only [anchored, h]

/-- Whether a path comes from a flag or from the settings, it is the same for both settings. -/
theorem pathOr_congr {s t : Settings} (hbase : s.baseDir.isSome = t.baseDir.isSome)
    {given : Option Path} {own own' : Option String} (hown : given = none → own = own')
    (workingDir : Path) : pathOr s workingDir given own = pathOr t workingDir given own' := by
  cases given with
  | none => rw [hown rfl]; rfl
  | some p => simp only [pathOr, anchored_congr hbase]

theorem getD_congr {α : Type} {given : Option α} {own own' : α}
    (h : given = none → own = own') : given.getD own = given.getD own' := by
  cases given with
  | none => exact h rfl
  | some a => rfl

/-- The launcher is that of the overrides, unless they have none to say. -/
theorem launcher_congr {o : Overrides} {own own' : Option String}
    (h : o.noLauncher = false → o.launcher = none → own = own') :
    (if o.noLauncher then none else o.launcher.or own) =
      if o.noLauncher then none else o.launcher.or own' := by
  cases hno : o.noLauncher with
  | true => rfl
  | false =>
    cases hlauncher : o.launcher with
    | none => rw [h hno hlauncher]
    | some launcher => rfl

/-- Settings that agree become the same settings. -/
theorem Agree.apply_eq {o : Overrides} {s t : Settings} (h : o.Agree s t) (workingDir : Path) :
    o.apply s workingDir = o.apply t workingDir := by
  have hbase : s.baseDir.isSome = t.baseDir.isSome := by rw [h.baseDir]
  simp only [apply, pathOr_congr hbase h.linter, pathOr_congr hbase h.configFile,
    pathOr_congr hbase h.rulesDir, getD_congr h.timeout, launcher_congr h.launcher,
    getD_congr h.maxCommandLength, getD_congr h.jobs, h.enabled, h.files, h.baseDir]

/-! ## How a path is spelled -/

/-- The path of a flag in a configuration; `based` says that the settings have a directory. -/
def spelled (based : Bool) (workingDir p : Path) : Path :=
  if p.isAbsolute || !based then p else Path.join workingDir p

theorem spelled_eq (based : Bool) (workingDir p : Path) :
    spelled based workingDir p = if based then Path.join workingDir p else p := by
  cases habs : p.isAbsolute <;> cases based <;> simp [spelled, habs, Path.join_of_isAbsolute]

end Overrides

namespace Settings

/-- A path that was spelled for a flag is left alone when it is resolved like an entry of the
settings: it starts at the root, or there is no directory to resolve it in. -/
theorem resolve_spelled (s : Settings) {workingDir p : Path} (hdir : workingDir.isAbsolute = true)
    {text : String}
    (h : Bytes.ofString text = Overrides.spelled s.baseDir.isSome workingDir p) :
    s.resolve text = Overrides.spelled s.baseDir.isSome workingDir p := by
  rw [resolve_eq_join, h, Overrides.spelled_eq]
  cases s.baseDir with
  | none => exact Path.join_nil_left p
  | some base => exact Path.join_of_isAbsolute (Path.isAbsolute_join hdir p)

end Settings

namespace Overrides

/-- A path that a flag names, once the settings have taken it and resolved it. -/
theorem exists_resolve_of_pathOr {s : Settings} {workingDir p : Path}
    (hdir : workingDir.isAbsolute = true) {own taken : Option String}
    (h : pathOr s workingDir (some p) own = .ok taken) :
    ∃ text, taken = some text ∧
      Bytes.ofString text = spelled s.baseDir.isSome workingDir p ∧
      s.resolve text = spelled s.baseDir.isSome workingDir p := by
  obtain ⟨text, htaken, htext⟩ := exists_text_of_pathOr h
  rw [← spelled_eq] at htext
  exact ⟨text, htaken, htext, s.resolve_spelled hdir htext⟩

/-- A path that is not blank is not blank as it is spelled either. -/
theorem isBlank_spelled {based : Bool} {workingDir p : Path}
    (hdir : workingDir.isAbsolute = true) (hp : p.isBlank = false) :
    (spelled based workingDir p).isBlank = false := by
  rw [spelled_eq]
  cases based with
  | false => exact hp
  | true =>
    exact Path.isBlank_of_slash_mem (Path.slash_mem_of_isAbsolute (Path.isAbsolute_join hdir p))

/-- The configuration has what the overrides say, wherever they say something; `based` says that the
settings have a directory. A rules directory that is blank counts as absent only where there is
none (`rulesDirFor`), so nothing is said about it here. -/
structure Rule (o : Overrides) (based : Bool) (workingDir : Path) (config : Config) : Prop where
  linter : ∀ p ∈ o.linter, config.linter = spelled based workingDir p
  configFile : ∀ p ∈ o.linterConfig, config.configFile = spelled based workingDir p
  rulesDir : ∀ p ∈ o.rulesDir, p.isBlank = false →
    config.rulesDir = some (spelled based workingDir p)
  timeout : ∀ t ∈ o.timeout, config.timeoutPerFile = t
  noLauncher : o.noLauncher = true → config.launcher = none
  launcher : o.noLauncher = false → ∀ l ∈ o.launcher, config.launcher = some l
  maxCommandLength : ∀ n ∈ o.maxCommandLength, config.maxCommandLength = n
  jobs : ∀ n ∈ o.jobs, config.jobs = max n 1

/-- Every path comes from a flag. -/
structure NamesPaths (o : Overrides) : Prop where
  linter : o.linter.isSome = true
  configFile : o.linterConfig.isSome = true
  rulesDir : o.rulesDir.isSome = true

end Overrides

namespace Settings

/-- What the overrides say is what the configuration has. -/
theorem rule_of_configWith? {s : Settings} {o : Overrides} {workingDir : Path} {config : Config}
    (hdir : workingDir.isAbsolute = true)
    (h : s.configWith? o workingDir = .ok (some config)) :
    o.Rule s.baseDir.isSome workingDir config := by
  obtain ⟨s', happly, hconfig⟩ := exists_of_configWith?_eq_some h
  obtain ⟨linter, configFile, rulesDir, hlinter, hfile, hrules, hs'⟩ :=
    Overrides.apply_eq_ok happly
  have hresolve : s'.resolve = s.resolve := by
    funext entry
    rw [resolve_eq_join, resolve_eq_join, hs']
  obtain ⟨-, ltext, ctext, hl, hc, -, rfl⟩ := config?_eq_some_iff.mp hconfig
  have hl : linter = some ltext := by rw [← hl, hs']
  have hc : configFile = some ctext := by rw [← hc, hs']
  have hflag : ∀ {p : Path} {own : Option String} {text : String},
      Overrides.pathOr s workingDir (some p) own = .ok (some text) →
        s'.resolve text = Overrides.spelled s.baseDir.isSome workingDir p := by
    intro p own text htaken
    obtain ⟨text', heq, -, hp⟩ := Overrides.exists_resolve_of_pathOr hdir htaken
    obtain rfl : text = text' := Option.some.inj heq
    rw [hresolve, hp]
  refine ⟨?linter, ?configFile, ?rulesDir, ?timeout, ?noLauncher, ?launcher, ?length, ?jobs⟩
  case linter =>
    intro p hp
    rw [Option.mem_def.mp hp, hl] at hlinter
    exact hflag hlinter
  case configFile =>
    intro p hp
    rw [Option.mem_def.mp hp, hc] at hfile
    exact hflag hfile
  case rulesDir =>
    intro p hp hblank
    rw [Option.mem_def.mp hp] at hrules
    obtain ⟨text, rfl, htext, hp⟩ := Overrides.exists_resolve_of_pathOr hdir hrules
    have hnot : Text.isBlank text = false := by
      rw [← Bytes.isBlank_ofString, htext, Overrides.isBlank_spelled hdir hblank]
    have htaken : s'.rulesDir = some text := by rw [hs']
    rw [← hp, ← hresolve, draft, htaken]
    simp [Option.filter, hnot]
  case timeout =>
    intro t ht
    rw [draft, hs', Option.mem_def.mp ht]
    rfl
  case noLauncher =>
    intro hno
    simp only [draft, hs', hno, if_true]
  case launcher =>
    intro hno l hl
    simp only [draft, hs', hno, Bool.false_eq_true, if_false, Option.mem_def.mp hl, Option.some_or]
  case length =>
    intro n hn
    rw [draft, hs', Option.mem_def.mp hn]
    rfl
  case jobs =>
    intro n hn
    rw [draft, hs', Option.mem_def.mp hn]
    rfl

/-! ## The directory of the settings -/

/-- The settings, found in this directory. -/
def inDir (s : Settings) (base : Path) : Settings := { s with baseDir := some base }

@[simp] theorem linter_inDir (s : Settings) (base : Path) : (s.inDir base).linter = s.linter := rfl

@[simp] theorem configFile_inDir (s : Settings) (base : Path) :
    (s.inDir base).configFile = s.configFile := rfl

@[simp] theorem rulesDir_inDir (s : Settings) (base : Path) :
    (s.inDir base).rulesDir = s.rulesDir := rfl

/-- All paths start at the root. -/
structure Anchored (s : Settings) : Prop where
  linter : ∀ text ∈ s.linter, Path.isAbsolute (Bytes.ofString text) = true
  configFile : ∀ text ∈ s.configFile, Path.isAbsolute (Bytes.ofString text) = true
  rulesDir : ∀ text ∈ s.rulesDir, Path.isAbsolute (Bytes.ofString text) = true

theorem resolve_inDir (s : Settings) (base : Path) {text : String}
    (h : Path.isAbsolute (Bytes.ofString text) = true) :
    (s.inDir base).resolve text = Bytes.ofString text := by
  rw [resolve_eq_join, Path.join_of_isAbsolute h]

theorem draft_inDir {s : Settings} (h : s.Anchored) (base base' : Path) {linter configFile : String}
    (hlinter : s.linter = some linter) (hfile : s.configFile = some configFile) :
    (s.inDir base).draft linter configFile = (s.inDir base').draft linter configFile := by
  have hrules : (s.rulesDir.filter fun dir => !Text.isBlank dir).map (s.inDir base).resolve =
      (s.rulesDir.filter fun dir => !Text.isBlank dir).map (s.inDir base').resolve :=
    Option.map_congr fun dir hdir => by
      have habs := h.rulesDir dir (Option.filter_eq_some_iff.mp hdir).1
      rw [resolve_inDir s base habs, resolve_inDir s base' habs]
  have hl := h.linter linter hlinter
  have hc := h.configFile configFile hfile
  simp only [draft, resolve_inDir s _ hl, resolve_inDir s _ hc]
  exact congrArg (Config.mk _ _ · _ _ _ _ _) hrules

/-- Where all paths start at the root, the directory plays no part. -/
theorem config?_inDir {s : Settings} (h : s.Anchored) (base base' : Path) :
    (s.inDir base).config? = (s.inDir base').config? := by
  cases hl : s.linter with
  | none => simp only [config?, inDir, hl]
  | some linter =>
    cases hc : s.configFile with
    | none => simp only [config?, inDir, hl, hc]
    | some configFile =>
      have hconfig : ∀ base, (s.inDir base).config? = if !s.enabled then .ok none else
          ((s.inDir base).draft linter configFile).check.map
            fun _ => some ((s.inDir base).draft linter configFile) := by
        intro base
        simp only [config?, draft, inDir, hl, hc]
      rw [hconfig, hconfig, draft_inDir h base base' hl hc]

/-- Paths that all come from flags start at the root if the settings have a directory. -/
theorem anchored_of_apply {s s' : Settings} {o : Overrides} {workingDir : Path}
    (hdir : workingDir.isAbsolute = true) (ho : o.NamesPaths) (hbase : s.baseDir.isSome = true)
    (h : o.apply s workingDir = .ok s') : s'.Anchored := by
  obtain ⟨linter, configFile, rulesDir, hlinter, hfile, hrules, rfl⟩ := Overrides.apply_eq_ok h
  have habs : ∀ {given : Option Path} {own taken : Option String}, given.isSome = true →
      Overrides.pathOr s workingDir given own = .ok taken →
      ∀ text ∈ taken, Path.isAbsolute (Bytes.ofString text) = true := by
    intro given own taken hgiven htaken text htext
    obtain ⟨p, rfl⟩ := Option.isSome_iff_exists.mp hgiven
    obtain ⟨text', rfl, hspelled, -⟩ := Overrides.exists_resolve_of_pathOr hdir htaken
    obtain rfl : text' = text := Option.some.inj htext
    rw [hspelled, Overrides.spelled_eq, hbase]
    exact Path.isAbsolute_join hdir p
  exact ⟨habs ho.linter hlinter, habs ho.configFile hfile, habs ho.rulesDir hrules⟩

theorem apply_inDir (s : Settings) (o : Overrides) (workingDir base base' : Path) :
    o.apply (s.inDir base') workingDir =
      (o.apply (s.inDir base) workingDir).map fun s' => s'.inDir base' := by
  have hpath : ∀ given own, Overrides.pathOr (s.inDir base') workingDir given own =
      Overrides.pathOr (s.inDir base) workingDir given own :=
    fun given own => Overrides.pathOr_congr rfl (fun _ => rfl) workingDir
  simp only [Overrides.apply, hpath, linter_inDir, configFile_inDir, rulesDir_inDir]
  cases Overrides.pathOr (s.inDir base) workingDir o.linter s.linter with
  | error e => rfl
  | ok linter =>
    cases Overrides.pathOr (s.inDir base) workingDir o.linterConfig s.configFile with
    | error e => rfl
    | ok configFile =>
      cases Overrides.pathOr (s.inDir base) workingDir o.rulesDir s.rulesDir <;> rfl

/-- If all paths come from flags, it does not matter in which directory the settings were found. -/
theorem configWith?_inDir {s : Settings} {o : Overrides} {workingDir : Path}
    (hdir : workingDir.isAbsolute = true) (ho : o.NamesPaths) (base base' : Path) :
    (s.inDir base).configWith? o workingDir = (s.inDir base').configWith? o workingDir := by
  rw [configWith?, configWith?, apply_inDir s o workingDir base base']
  cases happly : o.apply (s.inDir base) workingDir with
  | error e => rfl
  | ok s' =>
    have hs' : s' = s'.inDir base := by
      obtain ⟨_, _, _, -, -, -, rfl⟩ := Overrides.apply_eq_ok happly
      rfl
    have hconfig := config?_inDir (anchored_of_apply hdir ho rfl happly) base base'
    simp only [Except.map, ← hconfig, ← hs']

/-! ## Flags win -/

/-- Flags win over settings. Settings that say the same wherever the flags leave it to them come to
the same configuration or error. In a configuration, what a flag says is what it has: a path is
itself if it is absolute or the settings have no directory, and is spelled from the working
directory otherwise, whatever the directory of the settings is. And if all paths come from flags,
the directory in which settings were found does not matter for anything. -/
theorem flags_win (o : Overrides) (workingDir : Path) :
    (∀ s t : Settings, o.Agree s t → s.configWith? o workingDir = t.configWith? o workingDir) ∧
    (workingDir.isAbsolute = true → ∀ (s : Settings) (config : Config),
      s.configWith? o workingDir = .ok (some config) →
        o.Rule s.baseDir.isSome workingDir config) ∧
    (workingDir.isAbsolute = true → o.NamesPaths → ∀ (s : Settings) (base base' : Path),
      (s.inDir base).configWith? o workingDir = (s.inDir base').configWith? o workingDir) := by
  refine ⟨fun s t h => ?_, fun hdir s config => rule_of_configWith? hdir,
    fun hdir ho s => configWith?_inDir hdir ho⟩
  rw [configWith?, configWith?, h.apply_eq]

/-- Flags for a linter, its configuration and its launcher. -/
def ownLinter : Overrides where
  linter := some (Bytes.ofString "x.js")
  linterConfig := some (Bytes.ofString "/etc/x.json")
  noLauncher := true

/-- Under these flags settings with other paths and another launcher yield the same, and the linter
is seen from the working directory. -/
theorem ownLinter_wins :
    let other : Settings := { besideRules with linter := none, launcher := some "deno" }
    ownLinter.Agree besideRules other ∧
    besideRules.configWith? ownLinter (Bytes.ofString "/w") =
      other.configWith? ownLinter (Bytes.ofString "/w") ∧
    ∃ config, besideRules.configWith? ownLinter (Bytes.ofString "/w") = .ok (some config) ∧
      config.linter = Bytes.ofString "/w/x.js" ∧
      config.configFile = Bytes.ofString "/etc/x.json" ∧ config.launcher = none := by
  intro other
  have hagree : ownLinter.Agree besideRules other := by
    constructor <;> intros <;> first | rfl | contradiction
  obtain ⟨hsame, hrule, -⟩ := flags_win ownLinter (Bytes.ofString "/w")
  refine ⟨hagree, hsame _ _ hagree, _, by rfl, ?_⟩
  have h := hrule (by decide +kernel) besideRules _ (by rfl)
  refine ⟨(h.linter _ rfl).trans ?_, (h.configFile _ rfl).trans ?_, h.noLauncher rfl⟩
  · decide +kernel
  · decide +kernel

end Settings

end LintDispatch
