import LintDispatch.Shell.State

/-!
# Jobs
A job is what was started for one command: a process, or one for each stage of a pipe. The shell
waits for jobs, takes note of what it is told about other children meanwhile, and keeps the status
of those in the background until it is asked for.
-/

namespace LintDispatch.Shell

open LintDispatch.Machine

/-- The status of a command that ended like this. -/
def statusOf : Exit → Nat
  | .code n => n
  | .signal n => 128 + n

/-- What is said when a command ends by a signal while somebody waits for it. -/
def notice? : Exit → Option Letters
  | .code _ => none
  | .signal n =>
    if n == Signal.interrupt || n == Signal.pipe then none else some (Signal.meaning n)

namespace Job

/-- The status of a job that is done. -/
def status (j : Job) : Nat := ((j.processes.getLast?.bind (·.ended)).map statusOf).getD 0

/-- The job after one of its processes has ended. -/
def note (j : Job) (number : Nat) (e : Exit) : Job :=
  let noted (p : JobProcess) : JobProcess :=
    if p.number == number then { p with ended := some e } else p
  let j := { j with processes := j.processes.map noted }
  { j with changed := j.changed || j.isDone }

/-- One of the processes that have not ended has this number. -/
def isRunning (j : Job) (number : Nat) : Bool :=
  j.processes.any fun p => p.number == number && p.ended.isNone

/-- What a job is doing. -/
def stateText (j : Job) : Letters :=
  if !j.isDone then Letters.ofText "Running"
  else match j.processes.getLast?.bind (·.ended) with
    | some (.code 0) | none => Letters.ofText "Done"
    | some (.code n) => Letters.ofText "Done(" ++ Letters.ofNat n ++ [')']
    | some (.signal n) => Signal.meaning n

/-- The line about a job in a list of jobs. -/
def line (j : Job) (sign : Char) (withNumber : Bool) : Letters :=
  let front := '[' :: Letters.ofNat j.number ++ [']', ' ', sign, ' ']
  let number := if withNumber then
      ((j.processes.head?.map fun p => Letters.ofNat p.number ++ [' ']).getD [])
    else []
  let s := front ++ number ++ j.stateText
  let more : Letters := if withNumber then
      j.processes.tail.flatMap fun p =>
        let s := List.replicate front.length ' ' ++ Letters.ofNat p.number ++ [' ']
        Letters.ofText " |\n" ++ s ++ List.replicate (33 - s.length) ' '
    else j.processes.tail.flatMap fun _ => Letters.ofText " | "
  s ++ List.replicate (max 1 (33 - s.length)) ' ' ++ more ++ ['\n']

end Job

/-- The lowest number that no job has. -/
def freeJobNumber (jobs : List Job) : Nat :=
  ((List.range (jobs.length + 1)).map (· + 1)).find? (fun n => jobs.all (·.number != n)) |>.getD 1

/-- A new job. A job whose status has been asked for may have to make room for it. -/
def newJob : Act Nat := do
  let jobs := (← get).jobs
  let old := ((jobs.filter fun j => j.isDone && j.waited && !j.processes.isEmpty).map
    (·.number)).min?
  let jobs := match old with
    | some n => if n < freeJobNumber jobs then jobs.filter (·.number != n) else jobs
    | none => jobs
  let number := freeJobNumber jobs
  modify fun st => { st with jobs := ⟨number, [], false, false⟩ :: jobs }
  return number

/-- Changes a job. -/
def changeJob (number : Nat) (f : Job → Job) : Act Unit :=
  modify fun st => { st with jobs := st.jobs.map fun j => if j.number == number then f j else j }

/-- Forgets a job. -/
def forgetJob (number : Nat) : Act Unit :=
  modify fun st => { st with jobs := st.jobs.filter (·.number != number) }

/-- A job. -/
def State.job? (st : State) (number : Nat) : Option Job := st.jobs.find? (·.number == number)

/-- A process belongs to a job. -/
def addProcess (job number : Nat) : Act Unit :=
  changeJob job fun j => { j with processes := j.processes ++ [⟨number, none⟩] }

/-- Takes note of a child that has ended, and says so if it belongs to the job that is waited
for. -/
def noteEnd (awaited : Option Nat) (number : Nat) (e : Exit) : Act Unit := do
  match (← get).jobs.find? (·.isRunning number) with
  | none => return
  | some j =>
    changeJob j.number (·.note number e)
    if awaited == some j.number then
      match notice? e with
      | some s => sendTo 2 (s ++ ['\n'])
      | none => return

/-- Waits until a job is done. -/
def awaitDone (job : Nat) : (rounds : Nat) → Act Unit
  | 0 => return
  | rounds + 1 => do
    match (← get).job? job with
    | none => return
    | some j =>
      if j.isDone then return
      match ← ask (.wait true false) with
      | .ended number e =>
        noteEnd (some job) number e
        awaitDone job rounds
      | _ => return

/-- Waits for a job in the foreground, and forgets it. The answer is its status. -/
def awaitJob (job : Nat) : Act Nat := do
  awaitDone job Job.rounds
  let status := (((← get).job? job).map Job.status).getD 0
  forgetJob job
  return status

/-- Takes note of all children that have ended. -/
def noteEnds : (rounds : Nat) → Act Unit
  | 0 => return
  | rounds + 1 => do
    if (← get).jobs.isEmpty then return
    match ← ask (.wait false false) with
    | .ended number e =>
      noteEnd none number e
      noteEnds rounds
    | _ => return

/-- Signals that have arrived and that somebody wants to know about. -/
def collectArrivals : Act Unit := do
  if (← get).traps.any fun t => !t.2.isEmpty then
    let new : List Nat ← ask .arrivals
    if !new.isEmpty then modify fun st => { st with arrived := st.arrived ++ new }

/-- Waits until `isOver` holds. The answer is the signal that put an end to the waiting. -/
def awaitUntil (isOver : State → Bool) (awaited : Option Nat) : (rounds : Nat) → Act (Option Nat)
  | 0 => return none
  | rounds + 1 => do
    if isOver (← get) then return none
    match ← ask (.wait true true) with
    | .ended number e =>
      noteEnd awaited number e
      awaitUntil isOver awaited rounds
    | .interrupted =>
      collectArrivals
      return (← get).arrived.getLast?
    | _ => return none

/-- The job that a word such as `%1` stands for. -/
def jobNamed (s : Letters) : Act Job := do
  let st ← get
  let found := match s with
    | ['%'] | ['%', '%'] | ['%', '+'] => st.jobs.head?
    | ['%', '-'] => st.jobs[1]?
    | '%' :: rest => (Letters.nat? rest).bind st.job?
    | _ => none
  match found with
  | some j => return j
  | none => abort (Letters.ofText "No such job: " ++ s)

end LintDispatch.Shell
