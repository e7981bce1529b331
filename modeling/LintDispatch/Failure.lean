import LintDispatch.HostError
import LintDispatch.Text.Blank

/-!
# Failures
Everything that can end a run. A failure inside a batch is wrapped once, with the position of the
batch; `Failure.message` is the text shown for it and `Failure.sources` the texts of what caused it,
outermost first.
-/

namespace LintDispatch

/-- What ended a run. -/
inductive Failure where
  /-- The caller passed something unusable. -/
  | invalidArgument (text : String)
  /-- The configuration cannot drive a run. -/
  | invalidConfiguration (text : String)
  /-- A command was asked for without files. -/
  | invalidInput (text : String)
  /-- The linter could not be started. -/
  | processLaunch (text : String)
  /-- The linter ran past its deadline, in milliseconds, and was ended. -/
  | processTimeout (deadline : UInt64)
  /-- The linter failed without a report. There is no exit code if a signal ended it. -/
  | processFailed (exitCode : Option Int) (stderr : String)
  /-- The report cannot be read. -/
  | parse (text : String)
  /-- The settings cannot be used. -/
  | settings (text : String)
  /-- The run was cancelled after this many batches. -/
  | cancelled (completed : Nat)
  /-- The batch at `index` of `total`, with `fileCount` files, failed. -/
  | batch (index total fileCount : Nat) (source : Failure)
  /-- The host failed. -/
  | io (error : HostError)
  deriving DecidableEq, Repr, Inhabited

namespace Failure

/-- How a process ended, in words. -/
def exitText : Option Int → String
  | some code => "code " ++ toString code
  | none => "a signal"

/-- What the process said before it failed, after a colon. -/
def stderrText (stderr : String) : String :=
  let said := Text.trim stderr
  if said.isEmpty then "" else ": " ++ said

/-- What is said about a batch before its own failure. -/
def batchLead (index total fileCount : Nat) : String :=
  "Batch " ++ toString (index + 1) ++ " of " ++ toString total ++ " (" ++ toString fileCount ++
    " file(s)) failed: "

/-- The text shown for a failure. -/
def message : Failure → String
  | invalidArgument text => "Invalid argument: " ++ text
  | invalidConfiguration text => "Invalid configuration: " ++ text
  | invalidInput text => "Invalid input: " ++ text
  | processLaunch text => "Failed to launch linter: " ++ text
  | processTimeout deadline => "Linter timed out after " ++ toString deadline.toNat ++ " ms"
  | processFailed code stderr =>
    "Linter exited with " ++ exitText code ++ " and produced no report" ++ stderrText stderr
  | parse text => "Parse error: " ++ text
  | settings text => "Settings error: " ++ text
  | cancelled completed => "Cancelled after " ++ toString completed ++ " batch(es)"
  | batch index total fileCount source => batchLead index total fileCount ++ source.message
  | io error => "I/O error: " ++ error.message

theorem message_batch (index total fileCount : Nat) (source : Failure) :
    (batch index total fileCount source).message =
      batchLead index total fileCount ++ source.message := rfl

theorem message_io (error : HostError) : (io error).message = "I/O error: " ++ error.message := rfl

/-- Wraps a failure with the position of its batch. -/
def inBatch (f : Failure) (index total fileCount : Nat) : Failure :=
  batch index total fileCount f

/-- The failure inside all the wrapping. -/
def rootCause : Failure → Failure
  | batch _ _ _ source => source.rootCause
  | f => f

/-- The texts of the causes below a failure, the nearest first. -/
def sources : Failure → List String
  | batch _ _ _ source => source.message :: source.sources
  | io error => [error.message]
  | _ => []

end Failure

end LintDispatch
