import LintDispatch.Command

/-!
# Sessions
An executor is made of a runner, which runs commands, and a provider, which hands out output files.
Both may keep a state of their own and change the files that a run can see; a runner may also cancel
the run. A session is the state of all of them, together with a record of what was asked: how many
output files, and which commands under which deadlines.
-/

namespace LintDispatch

/-- What a finished process leaves behind. There is no exit code if a signal ended it. -/
structure Outcome where
  exitCode : Option Int
  stdout : String := ""
  stderr : String := ""
  deriving DecidableEq, Repr, Inhabited

/-- The process ended well. -/
def Outcome.success (o : Outcome) : Bool := o.exitCode == some 0

/-- What runners and providers share: the files, and whether the run has been cancelled. -/
structure Host where
  files : FileSystem
  cancelled : Bool := false
  deriving DecidableEq, Repr, Inhabited

/-- Runs a command under a deadline in milliseconds. -/
structure Runner (ρ : Type) where
  run : Command → (deadline : UInt64) → ρ → Host → Except Failure Outcome × ρ × Host

/-- Hands out output files. -/
structure Provider (τ : Type) where
  request : τ → FileSystem → Except HostError OutputFile × τ × FileSystem

/-- Temporary files as a provider. -/
def TempFiles.provider : Provider TempFiles := ⟨fun t fs => t.new fs⟩

/-- A command handed to a runner, and its deadline. -/
structure Call where
  command : Command
  deadline : UInt64
  deriving DecidableEq, Repr, Inhabited

/-- The state of an executor's parts, and what they have been asked for. -/
structure Session (ρ τ : Type) where
  runner : ρ
  provider : τ
  host : Host
  /-- How many output files have been asked for. -/
  requests : Nat := 0
  /-- The commands handed to the runner, in order. -/
  calls : List Call := []

/-- A runner and a provider, and whether anybody looks at the cancellation. -/
structure Executor (ρ τ : Type) where
  runner : Runner ρ
  provider : Provider τ
  /-- A cancelled run stops before its next batch. -/
  cancellable : Bool := false

variable {ρ τ : Type}

namespace Session

/-- The session with other files. -/
def withFiles (s : Session ρ τ) (fs : FileSystem) : Session ρ τ :=
  { s with host := { s.host with files := fs } }

/-- Releases an output file. -/
def release (s : Session ρ τ) (o : OutputFile) : Session ρ τ := s.withFiles (o.release s.host.files)

end Session

namespace Executor

/-- Asks for an output file. -/
def request (x : Executor ρ τ) (s : Session ρ τ) : Except HostError OutputFile × Session ρ τ :=
  match x.provider.request s.provider s.host.files with
  | (r, t, fs) =>
    (r, { s with
      provider := t, host := { s.host with files := fs }, requests := s.requests + 1 })

/-- Runs a command. -/
def launch (x : Executor ρ τ) (command : Command) (deadline : UInt64) (s : Session ρ τ) :
    Except Failure Outcome × Session ρ τ :=
  match x.runner.run command deadline s.runner s.host with
  | (r, runner, host) =>
    (r, { s with runner := runner, host := host, calls := s.calls ++ [⟨command, deadline⟩] })

/-- The run has been cancelled, and the executor looks at that. -/
def stopped (x : Executor ρ τ) (s : Session ρ τ) : Bool := x.cancellable && s.host.cancelled

end Executor

end LintDispatch
