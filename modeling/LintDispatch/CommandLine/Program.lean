import LintDispatch.CommandLine.Arguments
import LintDispatch.CommandLine.TextReport
import LintDispatch.Run.Parallel

/-!
# The program
A request is answered in the same steps whether it asks for a run or for a plan: settings are
loaded, the configuration is resolved, the files are selected. A plan then shows the batches and
command lines of a run, with a placeholder for the output path; a run shows what it found. The exit
code is 0 if all is well, 1 if an error-level issue was found and 2 if the program failed.
-/

namespace LintDispatch

open Arguments (Request Action Format)

/-- The answer of the program. -/
structure Answer where
  exitCode : Nat
  stdout : String := ""
  /-- What went wrong. -/
  error : Option ProgramError := none
  deriving DecidableEq, Repr

namespace Answer

/-- All is well. -/
def done (stdout : String) : Answer := { exitCode := 0, stdout := stdout }

/-- The program failed. -/
def failed (e : ProgramError) : Answer := { exitCode := 2, error := some e }

end Answer

namespace Program

/-- The name and the version of the program. -/
def version : String := "lintbatch 0.1.0\n"

/-- What is shown to someone who asks for help. -/
def help : String :=
  "Runs a linter over large file sets, one command line at a time\n\n" ++
  "Usage: lintbatch [-s <FILE>] [-v] <run|plan> [OPTIONS] [FILES]...\n\n" ++
  "  run   Lint files and report issues\n" ++
  "  plan  Show the batches and command lines without running them\n\n" ++
  "Options:\n" ++
  "  -s, --settings <FILE>             Settings file\n" ++
  "  -v, --verbose                     Say more\n" ++
  "      --linter <FILE>               Linter to run\n" ++
  "      --linter-config <FILE>        Configuration of the linter\n" ++
  "      --rules-dir <DIR>             Directory with further rules\n" ++
  "      --timeout-ms <MS>             Time for each file\n" ++
  "      --launcher <PROGRAM>          Program that the linter runs in\n" ++
  "      --no-launcher                 Run the linter itself\n" ++
  "      --max-command-length <BYTES>  Longest command line\n" ++
  "  -j, --jobs <N>                    Batches that run at the same time\n" ++
  "  -f, --format <text|json>          How issues are shown (run only)\n" ++
  "  -h, --help                        Show this text\n" ++
  "  -V, --version                     Show the version\n"

/-- What is said of arguments that make no request. -/
def usageError : String := "error: the arguments are not understood; try 'lintbatch --help'\n"

/-- The paths of the settings files that a request may read. -/
def settingsPaths (r : Request) : List Path :=
  match r.settings with
  | some p => [p]
  | none => Settings.fileNames.map fun name => Path.join (Bytes.ofString ".") (Bytes.ofString name)

/-- The settings file that is named, or else the one in the working directory; the defaults without
any. -/
def loadSettings (fs : FileSystem) (named : Option Path) : Except ProgramError Settings :=
  let load (p : Path) : Except ProgramError Settings :=
    (Settings.ofFile fs p).mapError fun f => .failure f.failure
  match named with
  | some p => load p
  | none =>
    match Settings.discover fs (Bytes.ofString ".") with
    | some p => load p
    | none => .ok {}

/-- What a request comes down to: the linter is switched off, or it is to lint these files. -/
inductive Task where
  | nothing
  | lint (config : Config) (files : List Path)
  deriving DecidableEq, Repr

/-- The paths that a task is about. -/
def Task.paths : Task → List Path
  | .nothing => []
  | .lint config files => config.linter :: config.configFile :: files

/-- The task of a request. -/
def task (fs : FileSystem) (r : Request) : Except ProgramError Task :=
  match loadSettings fs r.settings with
  | .error e => .error e
  | .ok settings =>
    match settings.configWith? r.overrides fs.workingPath with
    | .error e => .error e
    | .ok none => .ok .nothing
    | .ok (some config) => (settings.filesOr r.files).map (.lint config)

/-! ## Plans -/

/-- Stands for the output path where no run takes place. -/
def placeholder : OutputFile := ⟨Bytes.ofString "<output-file>", false⟩

/-- The lines about one batch of `total`. -/
def batchText (config : Config) (total : Nat) (batch : Batch) : String :=
  "Batch " ++ toString (batch.index + 1) ++ " of " ++ toString total ++ ": " ++
    toString batch.files.length ++ " file(s), timeout " ++
    toString (config.deadline batch.files.length).toNat ++ " ms, " ++
    toString (Plan.renderedLength config batch.files) ++ " bytes\n  " ++
    (Command.ofBatch config placeholder batch.files).line ++ "\n"

/-- The text of a plan. -/
def planText (config : Config) (files : List Path) (batches : List Batch) : String :=
  String.join (batches.map (batchText config batches.length)) ++
    "\nPlanned " ++ toString files.length ++ " files in " ++ toString batches.length ++
    " batches (limit " ++ toString config.maxCommandLength.toNat ++ " bytes)\n"

/-- Shows the batches that a run would take. -/
def showPlan (fs : FileSystem) (r : Request) : Answer :=
  match task fs r with
  | .error e => .failed e
  | .ok .nothing => .done "Linting is disabled in the settings file, nothing to plan\n"
  | .ok (.lint config files) =>
    match plan config files with
    | .error e => .failed (.failure e)
    | .ok batches => .done (planText config files batches)

/-! ## Runs -/

/-- The text of a result. -/
def resultText (format : Format) (result : RunResult) (files : List Path) :
    Except ProgramError String :=
  match format with
  | .text => .ok (result.textReport files.length)
  | .json =>
    match Issue.listText? result.issues with
    | some text => .ok (text ++ "\n")
    | none => .error (.unwritable Issue.unwritable)

/-- The answer to a finished run. -/
def resultAnswer (format : Format) (files : List Path) :
    Except Failure RunResult → Answer
  | .error e => .failed (.failure e)
  | .ok result =>
    match resultText format result files with
    | .error e => .failed e
    | .ok text => { exitCode := if result.hasErrors then 1 else 0, stdout := text }

variable {ρ τ : Type}

/-- Runs the linter. -/
def showRun (x : Executor ρ τ) (crew : Crew) (r : Request) (s : Session ρ τ) :
    Answer × Session ρ τ :=
  match task s.host.files r with
  | .error e => (.failed e, s)
  | .ok .nothing => (.done "Linting is disabled in the settings file, skipping\n", s)
  | .ok (.lint config files) =>
    match x.run config files crew s with
    | (result, s) => (resultAnswer r.format files result, s)

/-- Answers a request. -/
def answer (x : Executor ρ τ) (crew : Crew) (r : Request) (s : Session ρ τ) :
    Answer × Session ρ τ :=
  match r.action with
  | .plan => (showPlan s.host.files r, s)
  | .run => showRun x crew r s

end Program

end LintDispatch
