import LintDispatch.Run.Sequential

/-!
# Running several batches at once
A pool of workers lints the batches. The work on a batch is cut into steps, and a schedule says
whose step comes next; between two steps anything may happen to the other batches, and the run may
be cancelled. A worker that finds the mark of a failure skips its batch, so nothing new starts after
one, while what has started goes on to its end. The failure with the lowest index is reported.

No more batches are under way at once than there are workers, and a single worker takes the batches
in order; a schedule that asks for something else is not followed there. Batches that a schedule
leaves unfinished are finished in order after it, so every schedule describes a whole run.

The workers are started when the batches have been planned. Whether that works is up to the host
(`Crew`), and if it does not, the run fails before its first batch, even if it has none.
-/

namespace LintDispatch

variable {ρ τ : Type}

/-- How far the work on a batch has come. -/
inductive Stage where
  /-- No worker has taken the batch. -/
  | waiting
  /-- A worker has found no mark of a failure. -/
  | unmarked
  /-- The worker has found this many batches done. -/
  | taken (completed : Nat)
  /-- The run had not been cancelled. -/
  | cleared
  /-- The command is ready. -/
  | prepared (command : Command)
  /-- The command has run. -/
  | performed (command : Command) (outcome : Outcome)
  /-- The work is done, but nobody knows yet. -/
  | done (result : Except Failure (List Issue))
  /-- The work is done and counted. -/
  | settled (result : Except Failure (List Issue))
  /-- The batch is left out, because another one failed. -/
  | skipped

namespace Stage

/-- A worker is busy with the batch. -/
def underWay : Stage → Bool
  | waiting => false
  | settled _ => false
  | skipped => false
  | _ => true

/-- Nothing more will happen to the batch. -/
def isFinal : Stage → Bool
  | settled _ => true
  | skipped => true
  | _ => false

end Stage

/-- The state of a run with several workers. -/
structure Pool (ρ τ : Type) where
  session : Session ρ τ
  /-- How far each batch has come. -/
  stages : List Stage
  /-- A batch has failed. -/
  failed : Bool := false
  /-- How many batches have been linted. -/
  completed : Nat := 0

/-- Something that happens during a run. -/
inductive Move where
  /-- The work on the batch at this index takes a step. -/
  | advance (index : Nat)
  /-- Somebody cancels the run. -/
  | cancel
  deriving DecidableEq, Repr

/-- The order in which things happen. -/
abbrev Schedule := List Move

/-- What the host makes of the demand for workers. -/
inductive Crew where
  /-- They have been started, and the work goes on in this order. -/
  | atWork (schedule : Schedule)
  /-- They cannot be started, for the reason that the host gives. -/
  | unavailable (reason : String)
  deriving DecidableEq, Repr

namespace Pool

/-- The pool with the batch at an index come further. -/
def setStage (p : Pool ρ τ) (index : Nat) (stage : Stage) : Pool ρ τ :=
  { p with stages := p.stages.set index stage }

/-- A worker may take the batch at an index. -/
def mayTake (p : Pool ρ τ) (workers index : Nat) : Bool :=
  p.stages.countP Stage.underWay < workers &&
    (1 < workers || (p.stages.take index).all Stage.isFinal)

/-- The pool with the other stage of a batch and the session after a step. -/
def after (p : Pool ρ τ) (index : Nat) (stage : Stage) (s : Session ρ τ) : Pool ρ τ :=
  { p with stages := p.stages.set index stage, session := s }

/-- One step of the work on a batch, the one at its index in a run of `total`. -/
def work (x : Executor ρ τ) (config : Config) (total : Nat) (batch : Batch) (index : Nat)
    (p : Pool ρ τ) : Stage → Pool ρ τ
  | .waiting => p.setStage index (if p.failed then .skipped else .unmarked)
  | .unmarked => p.setStage index (.taken p.completed)
  | .taken completed =>
    p.setStage index
      (if x.stopped p.session then .done (.error (.cancelled completed)) else .cleared)
  | .cleared =>
    match x.prepare config batch p.session with
    | (.error e, s) => p.after index (.done (Executor.located batch total (.error e))) s
    | (.ok command, s) => p.after index (.prepared command) s
  | .prepared command =>
    match x.perform config batch command p.session with
    | (.error e, s) => p.after index (.done (Executor.located batch total (.error e))) s
    | (.ok outcome, s) => p.after index (.performed command outcome) s
  | .performed command outcome =>
    match Executor.collect command outcome p.session with
    | (r, s) => p.after index (.done (Executor.located batch total r)) s
  | .done (.ok issues) =>
    { p.setStage index (.settled (.ok issues)) with completed := p.completed + 1 }
  | .done (.error e) => { p.setStage index (.settled (.error e)) with failed := true }
  | .settled _ => p
  | .skipped => p

/-- What a move does. A batch that no worker may take yet stays as it is. -/
def move (x : Executor ρ τ) (config : Config) (workers : Nat) (batches : List Batch)
    (p : Pool ρ τ) : Move → Pool ρ τ
  | .cancel =>
    { p with session := { p.session with host := { p.session.host with cancelled := true } } }
  | .advance index =>
    match batches[index]?, p.stages[index]? with
    | some batch, some .waiting =>
      if p.mayTake workers index then work x config batches.length batch index p .waiting else p
    | some batch, some stage => work x config batches.length batch index p stage
    | _, _ => p

/-- The steps that bring any batch to its end. -/
def finishing (index : Nat) : Schedule := List.replicate 7 (.advance index)

/-- What is left to do after a schedule: first the batches under way, then the waiting ones. -/
def remaining (p : Pool ρ τ) : Schedule :=
  let indices := List.range p.stages.length
  (indices.filter fun i => p.stages[i]?.any Stage.underWay).flatMap finishing ++
    indices.flatMap finishing

/-- Follows a schedule. -/
def follow (x : Executor ρ τ) (config : Config) (workers : Nat) (batches : List Batch)
    (p : Pool ρ τ) (schedule : Schedule) : Pool ρ τ :=
  schedule.foldl (move x config workers batches) p

/-- The results of the batches in order, up to the first failure. -/
def gather : List Stage → RunResult → Except Failure RunResult
  | [], result => .ok result
  | .settled (.ok issues) :: stages, result => gather stages (result.push issues)
  | .settled (.error e) :: _, _ => .error e
  | _ :: stages, result => gather stages result

end Pool

namespace Executor

/-- How many workers a configuration asks for. -/
def workers (config : Config) : Nat := max config.jobs.toNat 1

/-- The pool after a whole run of the batches. -/
def runPool (x : Executor ρ τ) (config : Config) (schedule : Schedule) (batches : List Batch)
    (s : Session ρ τ) : Pool ρ τ :=
  let start : Pool ρ τ := ⟨s, batches.map fun _ => .waiting, false, 0⟩
  let p := start.follow x config (workers config) batches schedule
  p.follow x config (workers config) batches p.remaining

/-- Lints the files with as many workers as the configuration asks for. -/
def executeParallel (x : Executor ρ τ) (config : Config) (files : List Path) (crew : Crew)
    (s : Session ρ τ) : Except Failure RunResult × Session ρ τ :=
  match planChecked config files with
  | .error e => (.error e, s)
  | .ok batches =>
    match crew with
    | .unavailable reason => (.error (.io (.other reason)), s)
    | .atWork schedule =>
      let p := x.runPool config schedule batches s
      (Pool.gather p.stages {}, p.session)

/-- Lints the files, with several workers if the configuration asks for more than one. -/
def run (x : Executor ρ τ) (config : Config) (files : List Path) (crew : Crew)
    (s : Session ρ τ) : Except Failure RunResult × Session ρ τ :=
  if 1 < config.jobs then x.executeParallel config files crew s
  else x.execute config files s

end Executor

end LintDispatch
