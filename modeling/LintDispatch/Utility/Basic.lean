import LintDispatch.Machine.Task

/-!
# Utilities
A utility is a program that was told its name and its arguments. It says things on its standard
output, warns on its error output, and ends with a status.
-/

namespace LintDispatch.Utility

open LintDispatch.Machine

/-- The variables of a process, in the order in which they are listed. -/
abbrev Environment := List (Letters × Letters)

/-- What a program is started with. -/
structure Invocation where
  /-- The name by which it was called. -/
  name : Letters
  args : List Letters := []
  env : Environment := []
  deriving Inhabited

/-- Starts the program at a path, or says why that is impossible. -/
abbrev Launcher := FileSystem → Letters → Invocation → Except HostError Task

/-- A program. It may let others take its place. -/
abbrev Program := Invocation → Launcher → Task

/-- Something that a utility does: it knows its name and the status so far, and may end. -/
abbrev Act := ReaderT Letters (ExceptT Nat (StateT Nat Job))

/-- The task of a utility. -/
def taskOf (name : Letters) (a : Act Unit) : Task :=
  ((a.run name).run.run 0) fun (r, status) =>
    .ended (.code (match r with
      | .ok () => status
      | .error status => status))

/-- A program that does something with its arguments. -/
def program (f : List Letters → Act Unit) : Program := fun i _ => taskOf i.name (f i.args)

/-- Asks the world for something. -/
def ask (r : Request) : Act r.Reply := liftM (Job.ask r)

/-- Ends with a status. -/
def exit {α : Type} (status : Nat) : Act α := throw status

/-- Remembers a status for the end. -/
def setStatus (status : Nat) : Act Unit := set status

/-! ## Writing -/

/-- Writes a text in as many pieces as it takes. -/
def writeAll (d : Nat) : (rounds : Nat) → Letters → Act (Except HostError Unit)
  | 0, _ => return .ok ()
  | rounds + 1, s => do
    match ← ask (.write d s) with
    | .error e => return .error e
    | .ok n => if s.length ≤ n then return .ok () else writeAll d rounds (s.drop n)

/-- A line with the name of the utility in front, on the error output. -/
def warn (text : Letters) : Act Unit := do
  let s := (← read) ++ Letters.ofText ": " ++ text ++ ['\n']
  let _ ← writeAll 2 s.length s

/-- A warning about something that makes the utility fail in the end. -/
def complain (text : Letters) : Act Unit := do
  warn text
  setStatus 1

/-- A warning, and the end. -/
def refuse {α : Type} (text : Letters) (status : Nat := 1) : Act α := do
  warn text
  exit status

/-- What is said after the arguments made no sense. -/
def suggestHelp {α : Type} (status : Nat := 1) : Act α := do
  let s := Letters.ofText "Try '" ++ (← read) ++ Letters.ofText " --help' for more information.\n"
  let _ ← writeAll 2 s.length s
  exit status

/-- The arguments make no sense. -/
def misused {α : Type} (text : Letters) (status : Nat := 1) : Act α := do
  warn text
  suggestHelp status

/-- Why something failed, after what failed. -/
def because (what : Letters) (e : HostError) : Letters :=
  what ++ Letters.ofText ": " ++ Letters.ofText e.reason

/-- Writes to the standard output. A utility that cannot do so complains as it likes, and ends. -/
def sayOr (complaint : HostError → Letters) (s : Letters) : Act Unit := do
  if s.isEmpty then return
  match ← writeAll 1 s.length s with
  | .ok () => return
  | .error e => refuse (complaint e)

/-- Writes to the standard output. A utility that cannot do so ends. -/
def say (s : Letters) : Act Unit := sayOr (because (Letters.ofText "write error")) s

/-! ## Reading -/

/-- How much is read at once. -/
def blockSize : Nat := 8192

/-- Reads until there is nothing left: the text, and why reading stopped if that was an error. -/
def readAll (d : Nat) : (rounds : Nat) → List Letters → Act (Letters × Option HostError)
  | 0, done => return (done.reverse.flatten, none)
  | rounds + 1, done => do
    match ← ask (.read d false Pipe.capacity) with
    | .error e => return (done.reverse.flatten, some e)
    | .ok [] => return (done.reverse.flatten, none)
    | .ok s => readAll d rounds (s :: done)

/-- Does something with each block that is read until there is nothing left, or until it has had
enough. The state is handed on; an error of the host ends the reading. -/
def eachBlock {σ : Type} (d size : Nat) (f : σ → Letters → Act (σ × Bool)) :
    (rounds : Nat) → σ → Act (σ × Option HostError)
  | 0, s => return (s, none)
  | rounds + 1, s => do
    match ← ask (.read d false size) with
    | .error e => return (s, some e)
    | .ok [] => return (s, none)
    | .ok block =>
      let (s, more) ← f s block
      if more then eachBlock d size f rounds s else return (s, none)

/-- The path of a dash stands for the standard input. -/
def isInput (path : Letters) : Bool := path == ['-']

/-- Opens a path for reading. -/
def openInput (path : Letters) : Act (Except HostError Nat) := do
  if isInput path then return .ok 0
  else ask (.openPath (Letters.bytes path) .read)

/-- Closes what `openInput` has opened. -/
def closeInput (path : Letters) (d : Nat) : Act Unit := do
  if !isInput path then
    let _ ← ask (.close d)

/-- The operands, or the standard input if there are none. -/
def inputs (operands : List Letters) : List Letters :=
  if operands.isEmpty then [['-']] else operands

/-- Closes the standard input if one of the paths stands for it. To close what is not open is a
mistake. -/
def closeStandardInput (what : String) (paths : List Letters) : Act Unit := do
  if paths.any isInput then
    if !(← ask (.close 0)) then
      refuse (because (Letters.ofText what) .badDescriptor)

end LintDispatch.Utility
