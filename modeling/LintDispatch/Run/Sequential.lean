import LintDispatch.Run.Batch
import LintDispatch.Run.Result

/-!
# Running batch after batch
The inputs are checked before anything else happens. Then the batches are linted in order, each one
only after the report of the one before it has been read; the first failure ends the run.
-/

namespace LintDispatch

variable {ρ τ : Type}

/-- The inputs of a run are usable, or the failure says what is not. -/
def checkInputs (config : Config) (files : List Path) : Except Failure Unit :=
  match config.check with
  | .error e => .error (.invalidArgument e.message)
  | .ok () =>
    match files.findIdx? Bytes.isBlank with
    | some i => .error (.invalidArgument ("file path at position " ++ toString i ++ " is blank"))
    | none => .ok ()

/-- The batches of a run whose inputs are usable. -/
def planChecked (config : Config) (files : List Path) : Except Failure (List Batch) :=
  match checkInputs config files with
  | .error e => .error e
  | .ok () => plan config files

namespace Executor

/-- Lints the batches one after the other, as part of a run of `total` of them. -/
def runBatches (x : Executor ρ τ) (config : Config) (total : Nat) :
    List Batch → RunResult → Session ρ τ → Except Failure RunResult × Session ρ τ
  | [], result, s => (.ok result, s)
  | batch :: batches, result, s =>
    match x.runBatch config batch total result.batches s with
    | (.error e, s) => (.error e, s)
    | (.ok issues, s) => runBatches x config total batches (result.push issues) s

/-- Lints the files, batch after batch. -/
def execute (x : Executor ρ τ) (config : Config) (files : List Path) (s : Session ρ τ) :
    Except Failure RunResult × Session ρ τ :=
  match planChecked config files with
  | .error e => (.error e, s)
  | .ok batches => x.runBatches config batches.length batches {} s

/-- Lints the files, if there is a configuration and a list of files at all. -/
def executeOptional (x : Executor ρ τ) (config : Option Config) (files : Option (List Path))
    (s : Session ρ τ) : Except Failure RunResult × Session ρ τ :=
  match config, files with
  | none, _ => (.error (.invalidArgument "no configuration supplied"), s)
  | some _, none => (.error (.invalidArgument "no file list supplied"), s)
  | some config, some files => x.execute config files s

end Executor

end LintDispatch
