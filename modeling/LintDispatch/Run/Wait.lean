import LintDispatch.Duration
import LintDispatch.HostError

/-!
# Waiting for a process
A process is polled until it has ended or its time is up, and the clock is read after every poll
that still sees it running. Between two polls the watcher naps for one interval, or for less if
less time is left. Whoever watches a process has it in hand, and lets go of it on every way out of
the watch; a process that is let go of before its end was seen is killed and waited for.

What happens depends on nothing but what the polls show and what the clock says, so the watcher is
a function of these observations, and the record of its actions is part of its answer.
-/

namespace LintDispatch

/-- A clock, which counts ticks from some moment on. -/
structure Clock where
  /-- How many ticks make a second. -/
  rate : Nat
  deriving DecidableEq, Repr

namespace Clock

/-- The clock of a machine counts milliseconds. -/
def machine : Clock := ⟨1000⟩

/-- The last moment that the clock can show. There is room for the seconds below `2 ^ 63`. -/
def lastMoment (c : Clock) : Nat := Nat.pow 2 63 * c.rate - 1

/-- The whole ticks of a duration. -/
def ticks (c : Clock) (d : Duration) : Nat :=
  d.seconds.toNat * c.rate + d.nanoseconds.toNat * c.rate / 1000000000

theorem ticks_machine (d : Duration) : machine.ticks d = d.milliseconds := by
  have hrest : d.nanoseconds.toNat * 1000 / 1000000000 = d.nanoseconds.toNat / 1000000 := by omega
  rw [ticks, machine, hrest, Duration.milliseconds]

end Clock

/-- What a poll of a process shows. -/
inductive Sight where
  | running
  /-- The process has ended; there is no exit code if a signal ended it. -/
  | ended (exitCode : Option Int)
  /-- The host cannot tell. -/
  | failed (e : HostError)
  deriving DecidableEq, Repr, Inhabited

/-- A poll, and the clock right after it. -/
structure Observation where
  sight : Sight
  clock : Nat
  deriving DecidableEq, Repr, Inhabited

namespace Watch

/-- How a watch is over. -/
inductive Verdict where
  | ended (exitCode : Option Int)
  | failed (e : HostError)
  | overdue
  deriving DecidableEq, Repr, Inhabited

/-- What a watcher has done, and its verdict unless the watch still goes on. -/
structure Log where
  naps : List Nat := []
  /-- How often the process was killed and waited for. -/
  kills : Nat := 0
  verdict : Option Verdict := none
  deriving DecidableEq, Repr, Inhabited

/-- The log of a watcher that naps first. -/
def Log.afterNap (nap : Nat) (l : Log) : Log := { l with naps := nap :: l.naps }

/-- A process in hand. -/
structure Guard where
  /-- Nothing is left to be done about the process. -/
  reaped : Bool := false
  /-- How often the process was killed and waited for. -/
  kills : Nat := 0
  deriving DecidableEq, Repr

namespace Guard

/-- A poll that shows the end of the process has taken note of it. -/
def polled (g : Guard) : Sight → Guard
  | .ended _ => { g with reaped := true }
  | .running | .failed _ => g

/-- Kills the process and waits for it. Nothing is left to be done then, whatever the host says. -/
def terminate (g : Guard) : Guard := { reaped := true, kills := g.kills + 1 }

/-- Lets go of the process. -/
def release (g : Guard) : Guard := if g.reaped then g else g.terminate

/-- The end of a watch, at which the process is let go of. -/
def close (g : Guard) (v : Verdict) : Log := { kills := g.release.kills, verdict := some v }

end Guard

/-- When the time of a process is up: never, if the clock cannot show that moment. -/
def deadline? (start timeout : Nat) (clock : Clock := .machine) : Option Nat :=
  if start + timeout ≤ clock.lastMoment then some (start + timeout) else none

/-- Watches a process in hand through a list of observations. -/
def logFrom (interval : Nat) (deadline : Option Nat) (g : Guard) : List Observation → Log
  | [] => { kills := g.kills }
  | ⟨sight, now⟩ :: rest =>
    let g := g.polled sight
    match sight with
    | .ended exitCode => g.close (.ended exitCode)
    | .failed e => g.close (.failed e)
    | .running =>
      match deadline with
      | none => (logFrom interval none g rest).afterNap interval
      | some d =>
        if d ≤ now then g.terminate.close .overdue
        else (logFrom interval (some d) g rest).afterNap (min interval (d - now))

/-- Watches a process that has just been started. -/
def log (interval : Nat) (deadline : Option Nat) (seen : List Observation) : Log :=
  logFrom interval deadline {} seen

end Watch

end LintDispatch
