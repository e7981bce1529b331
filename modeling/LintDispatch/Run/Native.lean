import LintDispatch.Duration
import LintDispatch.Machine.Course
import LintDispatch.Run.Session
import LintDispatch.Run.Wait

/-!
# Running commands as processes
A command is started as a process of a machine and watched until it has ended or its time is up.
What it wrote to its output streams is read to the end, as text. An exit code other than zero is an
outcome like any other; not being able to start, and not being done in time, are failures.
-/

namespace LintDispatch

namespace Course

/-- What a poll shows at a time. -/
def sightAt (c : Course) (now : Nat) : Sight :=
  match c.lasts with
  | none => .running
  | some t => if t ≤ now then .ended c.exitCode else .running

/-- What a watcher who naps as planned sees at its `k`-th poll. -/
def observe (c : Course) (interval : Nat) (deadline : Option Nat) (k : Nat) : Observation :=
  let now := match deadline with
    | none => k * interval
    | some d => min (k * interval) d
  ⟨c.sightAt now, now⟩

/-- How many polls it takes until the process has ended or its time is up. -/
def polls (c : Course) (interval : Nat) (deadline : Option Nat) : Nat :=
  let last := match c.lasts, deadline with
    | some t, some d => min t d
    | some t, none => t
    | none, some d => d
    | none, none => 0
  last / max 1 interval + 2

/-- What a watcher sees of a process until it is over. -/
def observations (c : Course) (interval : Nat) (deadline : Option Nat) : List Observation :=
  (List.range (c.polls interval deadline)).map (c.observe interval deadline)

/-- The outcome of a process that has ended. -/
def outcome (c : Course) (exitCode : Option Int) : Outcome :=
  { exitCode := exitCode, stdout := Utf8.lossy c.stdout, stderr := Utf8.lossy c.stderr }

end Course

namespace Native

/-- The time between two polls unless another one is asked for, in milliseconds. -/
def defaultInterval : Nat := 10

/-- The interval that is used for one that is asked for: never none at all. -/
def usableInterval (ms : Nat) : Nat := max ms 1

/-- What is said of a command that cannot be started. -/
def launchText (c : Command) (e : HostError) : String :=
  "'" ++ Utf8.lossy c.program ++ "': " ++ e.message

/-- What a watch that is over returns. -/
@[simp]
def conclusion (course : Course) (limit : Duration) : Watch.Verdict → Except Failure Outcome
  | .ended exitCode => .ok (course.outcome exitCode)
  | .failed e => .error (.io e)
  | .overdue => .error (.processTimeout limit.reported)

/-- The result of a watch. Without a verdict the process is still running. -/
def result (course : Course) (limit : Duration) :
    Option Watch.Verdict → Except Failure Outcome
  | some v => conclusion course limit v
  | none => .error (.processTimeout limit.reported)

/-- Runs a command on a machine. The clock is given a duration, and what is reported of a command
whose time is up is that duration, in milliseconds again. -/
def run (m : Machine) (interval : Nat) (command : Command) (timeout : UInt64) (host : Host) :
    Except Failure Outcome × Host :=
  let limit := Duration.ofMilliseconds timeout
  let deadline := Watch.deadline? 0 (Clock.machine.ticks limit)
  match m.start command.argv interval deadline host.files with
  | .error e => (.error (.processLaunch (launchText command e)), host)
  | .ok course =>
    let seen := course.observations interval deadline
    (result course limit (Watch.log interval deadline seen).verdict,
      { host with files := course.files })

/-- The commands run on a machine. Nothing needs to be remembered between them. -/
def runner (m : Machine) (interval : Nat) : Runner Unit where
  run command timeout _ host :=
    match run m interval command timeout host with
    | (r, host) => (r, (), host)

/-- Runs commands on a machine, and reports to temporary files. -/
def executor (m : Machine) : Executor Unit TempFiles :=
  { runner := runner m (usableInterval defaultInterval), provider := TempFiles.provider }

end Native

end LintDispatch
