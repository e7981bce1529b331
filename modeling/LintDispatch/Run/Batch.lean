import LintDispatch.Plan
import LintDispatch.Report
import LintDispatch.Run.Session

/-!
# Linting one batch
A batch is linted in three stages: its command is built and must not be too long for its output
path; the command runs; its report is read, released and interpreted. The first stage that fails
ends the batch, and the output file is released whatever happens. A report of blanks is only
accepted from a process that ended well.
-/

namespace LintDispatch

variable {ρ τ : Type}

namespace Command

/-- What is said of a command that an output path beyond the reserve makes too long. -/
def overlongText (c : Command) (config : Config) : String :=
  "output path " ++ Utf8.lossy c.output.path ++ " is " ++ toString c.output.path.length ++
    " bytes, more than the " ++ toString Config.outputPathReserve ++
    " reserved for it; the command would be " ++ toString c.renderedLength ++ " bytes (limit " ++
    toString config.maxCommandLength.toNat ++ ")"

/-- The output path is longer than the reserve, and the command is too long with it. -/
def overlong (c : Command) (config : Config) : Bool :=
  Config.outputPathReserve < c.output.path.length &&
    config.maxCommandLength.toNat < c.renderedLength

end Command

/-- The issues that a process reports, or why its batch failed. -/
def Outcome.interpret (o : Outcome) (report : Bytes) : Except Failure (List Issue) :=
  if report.allBlank && !o.success then .error (.processFailed o.exitCode o.stderr)
  else Report.issues report

namespace Executor

/-- Builds the command of a batch. A command that is too long is not handed on. -/
def prepare (x : Executor ρ τ) (config : Config) (batch : Batch) (s : Session ρ τ) :
    Except Failure Command × Session ρ τ :=
  match Command.build x.request config batch.files s with
  | (.error e, s) => (.error e, s)
  | (.ok command, s) =>
    if command.overlong config then
      (.error (.invalidConfiguration (command.overlongText config)), s.release command.output)
    else (.ok command, s)

/-- Runs the command of a batch. -/
def perform (x : Executor ρ τ) (config : Config) (batch : Batch) (command : Command)
    (s : Session ρ τ) : Except Failure Outcome × Session ρ τ :=
  match x.launch command (config.deadline batch.files.length) s with
  | (.error e, s) => (.error e, s.release command.output)
  | (.ok outcome, s) => (.ok outcome, s)

/-- Reads the report of a command that has run, and releases it. -/
def collect (command : Command) (outcome : Outcome) (s : Session ρ τ) :
    Except Failure (List Issue) × Session ρ τ :=
  match command.output.read s.host.files with
  | .error e => (.error (.io e), s.release command.output)
  | .ok report => (outcome.interpret (report.getD []), s.release command.output)

/-- Lints a batch. -/
def lintBatch (x : Executor ρ τ) (config : Config) (batch : Batch) (s : Session ρ τ) :
    Except Failure (List Issue) × Session ρ τ :=
  match x.prepare config batch s with
  | (.error e, s) => (.error e, s)
  | (.ok command, s) =>
    match x.perform config batch command s with
    | (.error e, s) => (.error e, s)
    | (.ok outcome, s) => collect command outcome s

/-- Adds the position of a batch, one of `total`, to its failure. -/
def located {α : Type} (batch : Batch) (total : Nat) (r : Except Failure α) : Except Failure α :=
  r.mapError (·.inBatch batch.index total batch.files.length)

/-- Lints a batch unless the run has been cancelled; `completed` batches are done already. -/
def runBatch (x : Executor ρ τ) (config : Config) (batch : Batch) (total completed : Nat)
    (s : Session ρ τ) : Except Failure (List Issue) × Session ρ τ :=
  if x.stopped s then (.error (.cancelled completed), s)
  else
    match x.lintBatch config batch s with
    | (r, s) => (located batch total r, s)

end Executor

end LintDispatch
