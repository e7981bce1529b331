import LintDispatch.FileSystem.Layout
import LintDispatch.Machine.Course
import LintDispatch.Machine.Image
import LintDispatch.Machine.Schedule
import LintDispatch.Shell.Program
import LintDispatch.Utility.Catalogue

/-!
# The standard machine
A machine with a shell and a number of utilities. Time passes only as processes take their steps, and
the steps of all processes that a command starts are taken in the order of their time. Whoever waits
for a command waits until nobody holds its output streams any more.
-/

namespace LintDispatch

namespace Machine

open LintDispatch.Utility

/-- All programs by name. -/
def programs : List (String × Program) := ("sh", Shell.program) :: catalogue

/-- The program of a name. -/
def program? (name : Letters) : Option Program :=
  (programs.find? fun p => Letters.ofText p.1 == name).map (·.2)

/-- The files of a host on which nothing has happened yet. -/
def hostFiles : FileSystem := FileSystem.standard (programs.map fun p => (p.1, Image.fileOf p.1))

/-! ## Starting programs -/

/-- The longest argument that a process can be given. -/
def maxArgument : Nat := 131071

/-- The longest text of all arguments and variables together. -/
def maxArguments : Nat := 2097152

/-- Some argument is too long, or all are together. -/
def isTooLong (i : Invocation) : Bool :=
  let all := i.name :: i.args ++ i.env.map fun v => v.1 ++ '=' :: v.2
  all.any (maxArgument < ·.length) || maxArguments < all.flatten.length + 9 * all.length

/-- How many scripts may carry out each other. -/
def maxScripts : Nat := 5

/-- The program that carries out the file at a path in the end, and what it is started with. -/
def carrierOf (fs : FileSystem) : (scripts : Nat) → Letters → Invocation →
    Except HostError (Letters × Invocation)
  | 0, _, _ => .error (.other "Too many levels of symbolic links")
  | scripts + 1, path, i => do
    match ← Image.atPath fs path with
    | .program name => return (name, i)
    | .other => .error .noProgram
    | .script interpreter argument =>
      carrierOf fs scripts interpreter
        { i with name := interpreter, args := argument.toList ++ path :: i.args }

/-- The task of the program at a path. `fuel` bounds how often a process is taken over. -/
def launch : (fuel : Nat) → Launcher
  | 0, _, _, _ => .error .noProgram
  | fuel + 1, fs, path, i =>
    if isTooLong i then .error .argumentsTooLong
    else
      match carrierOf fs maxScripts path i with
      | .error e => .error e
      | .ok (name, i) =>
        match program? name with
        | none => .error .noProgram
        | some p => .ok (p i (launch fuel))

/-- How often a process may be taken over. -/
def takeOvers : Nat := 1000000000

/-! ## The first process -/

/-- The variables that every process is told about. -/
def environment (fs : FileSystem) : Environment :=
  let here := Letters.ofBytes fs.workingPath
  [(Letters.ofText "PATH", usualPath), (Letters.ofText "HOME", Letters.ofText "/root"),
    (Letters.ofText "PWD", here), (Letters.ofText "TMPDIR", here)]

/-- The program that is meant by a name. -/
def programPath (fs : FileSystem) (name : Letters) : Except HostError Letters :=
  if isPath name then .ok name
  else if name.isEmpty then .error .missing
  else if FileSystem.maxName < name.length then .error .nameTooLong
  else findProgram fs usualPath name

/-- The task of a command. -/
def taskOf (fs : FileSystem) (argv : List Bytes) : Except HostError Task :=
  if argv.any (·.contains 0) then .error .zeroInArgument
  else
    let words := argv.map Letters.ofBytes
    let name := words.headD []
    match programPath fs name with
    | .error e => .error e
    | .ok path =>
      launch takeOvers fs path { name := name, args := words.tail, env := environment fs }

/-- The world as the first process finds it: there is nothing to read, and what it writes goes to the
two outcome streams. -/
def firstWorld (fs : FileSystem) : World where
  files := fs
  opened := #[
    { stream := .device .null, readable := true }, { stream := .outcome 0, writable := true },
    { stream := .outcome 1, writable := true }]
  processes := #[{
    parent := 0, dir := fs.workingDir
    descriptors := [(0, ⟨0, false⟩), (1, ⟨1, false⟩), (2, ⟨2, false⟩)] }]
  living := [0]

/-! ## Courses -/

/-- How many steps the processes of a command may take. -/
def steps : Nat := 1200000

/-- The time of the look at which something is noticed that happens at time `t`, in microseconds:
looks are `interval` milliseconds apart, and the last one is when no more time is allowed. -/
def noticed (interval : Nat) (allowed : Option Nat) (t : Nat) : Nat :=
  let gap := 1000 * max 1 interval
  let next := (t / gap + 1) * gap
  match allowed with
  | none => next
  | some a => max t (min next (1000 * a))

/-- What has been written to an outcome stream. -/
def written (w : World) (k : Nat) : Bytes :=
  Letters.bytes ((w.outcomes.getD k []).reverse.flatten)

/-- The course of the processes of a command. -/
def courseOf (dir : Place) (verdict : Schedule.Verdict) (w : World) : Course :=
  let w := w.saved
  { lasts := match verdict with
      | .over time _ => some (time / 1000 + 1)
      | .overdue => none
    exitCode := match verdict with
      | .over _ (.code n) => some n
      | _ => none
    stdout := written w 0
    stderr := written w 1
    files := { w.files with workingDir := dir } }

/-- Carries out a command. -/
def carryOut (argv : List Bytes) (interval : Nat) (allowed : Option Nat) (fs : FileSystem) :
    Except HostError Course :=
  match taskOf fs argv with
  | .error e => .error e
  | .ok task =>
    let slot : Slot := { process := 0, due := startTime, task := task }
    let (verdict, w) := Schedule.run (allowed.map (1000 * ·)) (noticed interval allowed) steps none
      ⟨firstWorld fs, [slot]⟩
    .ok (courseOf fs.workingDir verdict w)

/-- The standard machine. -/
def standard : Machine := ⟨carryOut⟩

end Machine

end LintDispatch
