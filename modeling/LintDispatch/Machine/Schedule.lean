import LintDispatch.Machine.Task

/-!
# Schedules
Several processes share one world and one clock. Every request takes time, so each process has a
moment when its next request is due; the earliest one goes first. A process whose request has no
answer yet waits until another one has changed the world.
-/

namespace LintDispatch.Machine

/-- A process with what it does next. -/
structure Slot where
  process : Nat
  /-- When its next request is due. -/
  due : Nat
  /-- It waits for the world to change. -/
  waits : Bool := false
  task : Task
  deriving Inhabited

/-- How long it takes until a new process does something, in microseconds. -/
def startTime : Nat := 300

/-- A schedule: the world and the processes in it. -/
structure Schedule where
  world : World
  slots : List Slot

namespace Schedule

/-- The request of a process would be answered now. -/
def isAnswered (w : World) (s : Slot) : Bool :=
  match s.task with
  | .ask r _ => (w.answer s.process r).isSome
  | _ => true

/-- Forgets the processes that have ended, and lets those go on that need not wait any more. -/
def settle (w : World) (slots : List Slot) : Schedule where
  world := w
  slots := (slots.filter fun s => w.isAlive s.process).map fun s =>
    if s.waits && isAnswered w s then { s with waits := false, due := max s.due w.clock } else s

/-- A process takes its next step: the world after it, the process, and the processes that it has
started. -/
def advance (w : World) (s : Slot) : World × List Slot :=
  match s.task with
  | .ended e => (w.finish s.process e, [])
  | .fork child next =>
    let (c, w) := w.spawn s.process
    (w, [{ s with due := w.clock + 100, task := next (World.numberOf c) },
      { process := c, due := w.clock + startTime, task := child }])
  | .ask r next =>
    match w.answer s.process r with
    | none => (w, [{ s with waits := true }])
    | some (a, w) =>
      if w.isAlive s.process then (w, [{ s with due := w.clock + r.cost a, task := next a }])
      else (w, [])

/-- The first of two slots in time. -/
def earlier (a b : Slot) : Slot := if b.due < a.due then b else a

/-- The process whose turn it is, if there is one. -/
def turn? (s : Schedule) : Option Slot :=
  match s.slots.filter fun x => !x.waits && !(s.world.process x.process).stopped with
  | [] => none
  | x :: xs => some (xs.foldl earlier x)

/-- One step of the schedule, by the process whose turn it is. -/
def step (s : Schedule) (x : Slot) : Schedule :=
  let rest := s.slots.filter (·.process != x.process)
  let w := { s.world with clock := max s.world.clock x.due }
  let (w, slots) := advance w x
  settle w (rest ++ slots)

/-- How a run of a schedule is over. -/
inductive Verdict where
  /-- The first process has ended, at this time, and nobody holds the outcome streams. -/
  | over (time : Nat) (e : Exit)
  /-- The first process has not ended in time. -/
  | overdue
  deriving DecidableEq, Repr, Inhabited

/-- Runs a schedule. The first process may run until `deadline`; when it has ended at a time `t`,
the others go on until `seen t`, and further as long as they hold the outcome streams. -/
def run (deadline : Option Nat) (seen : Nat → Nat) :
    (fuel : Nat) → (done : Option (Nat × Exit)) → Schedule → Verdict × World
  | 0, some (t, e), s => (.over t e, s.world)
  | 0, none, s => (.overdue, s.world)
  | fuel + 1, some (t, e), s =>
    match turn? s with
    | none => (.over t e, s.world)
    | some x =>
      if seen t < x.due && !s.world.isHeld then (.over t e, s.world)
      else run deadline seen fuel (some (t, e)) (step s x)
  | fuel + 1, none, s =>
    match turn? s with
    | none => (.overdue, s.world)
    | some x =>
      if deadline.any (· < x.due) then (.overdue, s.world)
      else
        let s := step s x
        run deadline seen fuel (s.world.ending.map (s.world.clock, ·)) s

end Schedule

end LintDispatch.Machine
