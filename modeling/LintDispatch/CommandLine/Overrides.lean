import LintDispatch.Settings.Basic

/-!
# Overrides
Settings that are given on the command line. They win over the settings file, and their relative
paths start from the working directory, not from the directory of the settings file.
-/

namespace LintDispatch

/-- Settings given on the command line. -/
structure Overrides where
  linter : Option Path := none
  linterConfig : Option Path := none
  rulesDir : Option Path := none
  timeout : Option UInt64 := none
  launcher : Option String := none
  noLauncher : Bool := false
  maxCommandLength : Option UInt64 := none
  jobs : Option UInt64 := none
  deriving DecidableEq, Repr, Inhabited

/-- What ends a program run. -/
inductive ProgramError where
  | failure (f : Failure)
  /-- A path given as an override is not text. -/
  | notText (path : Path)
  /-- The issues cannot be written in the format that is asked for; the text says why. -/
  | unwritable (text : String)
  deriving DecidableEq, Repr

/-- The text of an error. -/
def ProgramError.message : ProgramError → String
  | failure f => f.message
  | notText path => "Path is not valid UTF-8: " ++ Text.quotedPath path
  | unwritable text => text

namespace Overrides

/-- A path given on the command line, as the settings take it: where these have a directory of their
own, a relative path is spelled out from the working directory. -/
def anchored (settings : Settings) (workingDir p : Path) : Except ProgramError String :=
  let p := if !p.isAbsolute && settings.baseDir.isSome then Path.join workingDir p else p
  match Utf8.decode? p with
  | some s => .ok s
  | none => .error (.notText p)

/-- A path of the settings, unless one is given on the command line. -/
def pathOr (settings : Settings) (workingDir : Path) (given : Option Path) (own : Option String) :
    Except ProgramError (Option String) :=
  match given with
  | none => .ok own
  | some p => (anchored settings workingDir p).map some

/-- The settings with the overrides. -/
def apply (o : Overrides) (settings : Settings) (workingDir : Path) :
    Except ProgramError Settings := do
  let linter ← pathOr settings workingDir o.linter settings.linter
  let configFile ← pathOr settings workingDir o.linterConfig settings.configFile
  let rulesDir ← pathOr settings workingDir o.rulesDir settings.rulesDir
  return { settings with
    linter := linter
    configFile := configFile
    rulesDir := rulesDir
    timeout := o.timeout.getD settings.timeout
    launcher := if o.noLauncher then none else o.launcher.or settings.launcher
    maxCommandLength := o.maxCommandLength.getD settings.maxCommandLength
    jobs := o.jobs.getD settings.jobs }

end Overrides

namespace Settings

/-- The configuration that the settings ask for under overrides: none if they switch the linter
off. -/
def configWith? (s : Settings) (o : Overrides) (workingDir : Path) :
    Except ProgramError (Option Config) :=
  match o.apply s workingDir with
  | .error e => .error e
  | .ok s => s.config?.mapError .failure

/-- The files to lint: those given on the command line, or else those that the settings list. -/
def filesOr (s : Settings) (given : List Path) : Except ProgramError (List Path) :=
  if !given.isEmpty then .ok given
  else match s.resolvedFiles with
    | some files => .ok files
    | none => .error (.failure (.invalidArgument ("no files to lint: pass them on the command " ++
        "line or list them under `files` in the settings")))

end Settings

end LintDispatch
