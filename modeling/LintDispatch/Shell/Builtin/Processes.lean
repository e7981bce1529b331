import LintDispatch.Shell.Builtin.Basic
import LintDispatch.Shell.Job

/-!
# Builtins for processes
Jobs are waited for and listed, signals are sent, and what is to happen when one arrives is set.
-/

namespace LintDispatch.Shell

open LintDispatch.Machine

/-! ## Jobs -/

/-- Waits for all jobs. The answer is a signal that put an end to the waiting. -/
def awaitAll : Act (Option Nat) := do
  let signal ← awaitUntil (fun st => st.jobs.all (·.isDone)) none Job.rounds
  if signal.isNone then
    modify fun st => { st with jobs := st.jobs.map fun j => { j with waited := true } }
  return signal

/-- Waits for the job of a process or a name. The answer is its status; `other` stands for the one
of a process that nobody knows. -/
def awaitNamed (other : Nat) (a : Letters) : Act (Nat × Bool) := do
  let job : Option Job ← if a.head? == some '%' then pure (some (← jobNamed a)) else do
    let number ← numberOf a
    pure ((← get).jobs.find? fun j => (j.processes.getLast?.map (·.number)) == some number)
  match job with
  | none => return (other, true)
  | some j =>
    let signal ← awaitUntil (fun st => ((st.job? j.number).map (·.isDone)).getD true)
      (some j.number) Job.rounds
    match signal with
    | some s => return (128 + s, false)
    | none =>
      changeJob j.number ({ · with waited := true })
      return ((((← get).job? j.number).map Job.status).getD other, true)

/-- Waits for some jobs, one after the other. -/
def awaitEach (status : Nat) : List Letters → Act Nat
  | [] => return status
  | a :: as => do
    let (status, more) ← awaitNamed status a
    if more then awaitEach status as else return status

/-- Waits for jobs. -/
def wait : Builtin := fun args => do
  match ← withoutOptions args with
  | [] =>
    match ← awaitAll with
    | some s => return 128 + s
    | none => return 0
  | args => awaitEach 127 args

/-- Shows a job; one that is done is forgotten. -/
def showJob (mode : Option Char) (j : Job) : Act Unit := do
  if mode == some 'p' then
    j.processes.head?.forM fun p => sayLine (Letters.ofNat p.number)
  else
    let jobs := (← get).jobs
    let sign := if (jobs.head?.map (·.number)) == some j.number then '+'
      else if (jobs[1]?.map (·.number)) == some j.number then '-'
      else ' '
    say (j.line sign (mode == some 'l'))
    changeJob j.number ({ · with changed := false })
    if j.isDone then forgetJob j.number

/-- Shows jobs. -/
def jobs : Builtin := fun args => do
  let (os, args) ← optionsOf "lp" args
  let mode := lastOption os
  if args.isEmpty then
    noteEnds Job.rounds
    let all := (← get).jobs
    all.forM fun j => do
      match (← get).job? j.number with
      | some j => showJob mode j
      | none => return
  else
    args.forM fun a => do showJob mode (← jobNamed a)
  return 0

/-- There is no way to bring a job to the foreground without control over jobs. -/
def foreground : Builtin := fun args => do
  let args ← withoutOptions args
  match args with
  | a :: _ =>
    let j ← jobNamed a
    abort (Letters.ofText "job " ++ Letters.ofNat j.number ++
      Letters.ofText " not created under job control")
  | [] =>
    match (← get).jobs with
    | j :: _ =>
      abort (Letters.ofText "job " ++ Letters.ofNat j.number ++
        Letters.ofText " not created under job control")
    | [] => abort (Letters.ofText "No current job")

/-! ## Signals -/

/-- The signal that a number or a name spells, from `least` on. -/
def signalOf? (least : Nat) (s : Letters) : Option Nat :=
  match Letters.nat? s with
  | some n => if n < Signal.limit then some n else Signal.ofName? least s
  | none => Signal.ofName? least s

/-- How `kill` is used. -/
def killUsage {α : Type} : Act α :=
  abort (Letters.ofText ("Usage: kill [-s sigspec | -signum | -sigspec] [pid | job]... or\n" ++
    "kill -l [exitstatus]"))

/-- Names signals. -/
def listSignals (args : List Letters) : Act Nat := do
  match args with
  | [] =>
    sayLine ['0']
    (List.range (Signal.limit - 1)).forM fun n => sayLine (Signal.name (n + 1))
    return 0
  | a :: _ =>
    let n ← numberOf a
    let n := if 128 < n then n - 128 else n
    if 0 < n && n < Signal.limit then
      sayLine (Signal.name n)
      return 0
    else abort (Letters.ofText "invalid signal number or exit status: " ++ a)

/-- Sends a signal. A number with a dash stands for a group, of which there are none. The answer says
whether that went well. -/
def sendSignal (signal : Nat) (a : Letters) : Act Bool := do
  let number : Option Nat ← match a with
    | '%' :: _ =>
      let _ ← jobNamed a
      pure none
    | '-' :: n =>
      let _ ← numberOf n
      pure none
    | _ => pure (some (← numberOf a))
  let r : Except HostError Unit ← match number with
    | none => pure (.error .noProcess)
    | some n => ask (.kill n signal)
  match r with
  | .ok () => return true
  | .error e =>
    complain (Letters.ofText (e.reason ++ "\n"))
    return false

/-- Sends a signal to processes. -/
def killAll (signal : Nat) (args : List Letters) : Act Nat := do
  if args.isEmpty then killUsage
  let sent ← args.mapM (sendSignal signal)
  return if sent.all id then 0 else 1

/-- Sends signals, and names them. -/
def kill : Builtin := fun args => do
  match args with
  | [] => killUsage
  | ('-' :: s) :: rest =>
    match signalOf? 1 s with
    | some n => killAll n rest
    | none =>
      let (os, rest) ← optionsOf "ls:" args
      let named ← os.filterMapM fun o => do
        if o.1 != 's' then return none
        match signalOf? 1 o.2 with
        | some n => return some n
        | none => abort (Letters.ofText "invalid signal number or name: " ++ o.2)
      if os.any (·.1 == 'l') then
        if named.isEmpty then listSignals rest else killUsage
      else killAll (named.getLastD Signal.terminate) rest
  | args => killAll Signal.terminate args

/-! ## Traps -/

/-- What to do with a signal, given the trap for it. -/
def handlingFor : Option Letters → Handling
  | none => .usual
  | some [] => .ignore
  | some _ => .catch

/-- Sets how a signal is handled. A signal that was ignored before the shell had anything to say
stays ignored. -/
def handleSignal (own : Bool) (action : Option Letters) (signal : Nat) : Act Unit := do
  let before : Handling ← ask (.handling signal)
  if own || before != .ignore then
    let _ : Unit ← ask (.handle signal (handlingFor action))

/-- Sets the trap for a signal, or removes it. -/
def setTrap (action : Option Letters) (signal : Nat) : Act Unit := do
  let own := (← get).traps.any (·.1 == signal)
  modify fun st =>
    let others := st.traps.filter (·.1 != signal)
    { st with traps := match action with
      | some a => (signal, a) :: others
      | none => others }
  if signal != 0 then handleSignal own action signal

/-- Sets the trap for some signals. The answer is a status. -/
def setTraps (action : Option Letters) : List Letters → Act Nat
  | [] => return 0
  | a :: as => do
    match signalOf? 0 a with
    | none =>
      sendTo 2 (Letters.ofText "trap: " ++ a ++ Letters.ofText ": bad trap\n")
      return 1
    | some n =>
      setTrap action n
      setTraps action as

/-- The line that sets a trap. -/
def trapLine (t : Nat × Letters) : Letters :=
  Letters.ofText "trap -- " ++ quoted t.2 ++ ' ' :: Signal.name t.1

/-- Sets and shows traps. -/
def trap : Builtin := fun args => do
  match ← withoutOptions args with
  | [] =>
    ((← get).traps.mergeSort fun a b => a.1 ≤ b.1).forM fun t => sayLine (trapLine t)
    return 0
  | [a] => setTraps none [a]
  | a :: as =>
    if ((Letters.nat? a).map fun n => decide (n < Signal.limit)).getD false then
      setTraps none (a :: as)
    else setTraps (if a == ['-'] then none else some a) as

end LintDispatch.Shell
