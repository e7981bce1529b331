import LintDispatch.Path

/-!
# Run configuration
What one run of the linter needs to know: the program, its own configuration, and the limits that
shape the batches. `Config.fault?` names the first thing that keeps a configuration from driving a
run; blank optional parts count as absent.
-/

namespace LintDispatch

/-- The configuration of a run. -/
structure Config where
  /-- The linter's entry point. -/
  linter : Path := []
  /-- The linter's own configuration file. -/
  configFile : Path := []
  /-- A directory with further rules. -/
  rulesDir : Option Path := none
  /-- The time allowed per file, in milliseconds. -/
  timeoutPerFile : UInt64 := 60000
  /-- The program that starts the linter; without one the linter is started directly. -/
  launcher : Option String := some "node"
  /-- The report format asked of the linter. -/
  outputFormat : String := "json"
  /-- The greatest length of a planned command line. -/
  maxCommandLength : UInt64 := 4096
  /-- How many batches may run at once. -/
  jobs : UInt64 := 1
  deriving DecidableEq, Repr, Inhabited

namespace Config

/-- The length set aside for the output path while planning, before the path is known. -/
def outputPathReserve : Nat := 260

/-- Why a configuration cannot drive a run. -/
inductive Fault where
  | blankLinter
  | blankConfigFile
  | noTime
  | noLength
  | blankFormat
  deriving DecidableEq, Repr

/-- The wording of a fault. -/
def Fault.message : Fault → String
  | .blankLinter => "linter path must not be blank"
  | .blankConfigFile => "config file must not be blank"
  | .noTime => "timeout per file must be positive"
  | .noLength => "maximum command length must be positive"
  | .blankFormat => "output format must not be blank"

/-- The first fault of the configuration. -/
def fault? (c : Config) : Option Fault :=
  if c.linter.isBlank then some .blankLinter
  else if c.configFile.isBlank then some .blankConfigFile
  else if c.timeoutPerFile == 0 then some .noTime
  else if c.maxCommandLength == 0 then some .noLength
  else if Text.isBlank c.outputFormat then some .blankFormat
  else none

/-- The configuration can drive a run. -/
def Valid (c : Config) : Prop := c.fault? = none

instance (c : Config) : Decidable c.Valid := inferInstanceAs (Decidable (_ = _))

theorem valid_iff (c : Config) : c.Valid ↔
    c.linter.isBlank = false ∧ c.configFile.isBlank = false ∧ c.timeoutPerFile ≠ 0 ∧
      c.maxCommandLength ≠ 0 ∧ Text.isBlank c.outputFormat = false := by
  unfold Valid fault?
  repeat' split
  all_goals simp_all

/-- The rules directory to pass on: a blank one is left out. -/
def effectiveRulesDir (c : Config) : Option Path := c.rulesDir.filter fun d => !d.isBlank

/-- The launcher to start, without the white space around it: a blank one is left out. -/
def effectiveLauncher (c : Config) : Option String :=
  (c.launcher.map Text.trim).filter fun l => !l.isEmpty

/-- The time allowed for `count` files, in milliseconds, cut off at the greatest 64-bit value. -/
def deadline (c : Config) (count : Nat) : UInt64 :=
  UInt64.ofNat (min (c.timeoutPerFile.toNat * count) (UInt64.size - 1))

theorem toNat_deadline (c : Config) (count : Nat) :
    (c.deadline count).toNat = min (c.timeoutPerFile.toNat * count) (UInt64.size - 1) := by
  simp only [deadline, UInt64.toNat_ofNat', UInt64.size]
  omega

end Config

end LintDispatch
