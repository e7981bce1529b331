import LintDispatch.Machine.Task
import LintDispatch.Shell.Grammar

/-!
# The state of a shell
A shell has variables, arguments, functions, traps and jobs of its own; files and descriptors belong
to the world, which it asks for what it needs. An action changes the state; it either carries on or
leaves the usual order of commands, and then somebody further out takes care of what is left.
-/

namespace LintDispatch.Shell

open LintDispatch.Machine

/-- A variable. It may have no value. -/
structure Variable where
  name : Letters
  value : Option Letters := none
  exported : Bool := false
  constant : Bool := false
  deriving DecidableEq, Repr, Inhabited

/-- A function. -/
structure Function where
  name : Letters
  body : Command
  deriving Inhabited

/-- Something that can be switched on and off. -/
inductive Setting where
  | errexit
  | noglob
  | ignoreeof
  | interactive
  | monitor
  | noexec
  | stdin
  | xtrace
  | verbose
  | vi
  | emacs
  | noclobber
  | allexport
  | notify
  | nounset
  | privileged
  | nolog
  | debug
  deriving DecidableEq, Repr, Inhabited

namespace Setting

/-- All settings with their names and letters, in the order in which they are listed. -/
def all : List (Setting × String × Option Char) :=
  [(errexit, "errexit", some 'e'), (noglob, "noglob", some 'f'), (ignoreeof, "ignoreeof", some 'I'),
   (interactive, "interactive", some 'i'), (monitor, "monitor", some 'm'),
   (noexec, "noexec", some 'n'), (stdin, "stdin", some 's'), (xtrace, "xtrace", some 'x'),
   (verbose, "verbose", some 'v'), (vi, "vi", some 'V'), (emacs, "emacs", some 'E'),
   (noclobber, "noclobber", some 'C'), (allexport, "allexport", some 'a'),
   (notify, "notify", some 'b'), (nounset, "nounset", some 'u'),
   (privileged, "privileged", some 'p'), (nolog, "nolog", none), (debug, "debug", none)]

/-- The setting of a letter. -/
def ofLetter? (c : Char) : Option Setting := (all.find? (·.2.2 == some c)).map (·.1)

/-- The setting of a name. -/
def ofName? (name : Letters) : Option Setting :=
  (all.find? fun s => Letters.ofText s.2.1 == name).map (·.1)

end Setting

/-- How the commands that follow are passed by. -/
inductive Skipping where
  /-- Out of so many loops. -/
  | leave (levels : Nat)
  /-- To the next round of a loop, out of so many loops. -/
  | again (levels : Nat)
  /-- Out of a function or a file; `plain` if no status was given. -/
  | back (plain : Bool)
  deriving DecidableEq, Repr, Inhabited

/-- Where a descriptor led before a redirection. -/
inductive Saved where
  | closed
  | copy (descriptor : Nat)
  deriving DecidableEq, Repr, Inhabited

/-- A process of a job. -/
structure JobProcess where
  number : Nat
  ended : Option Exit := none
  deriving DecidableEq, Repr, Inhabited

/-- A command that was started as one or more processes. -/
structure Job where
  /-- By this number people know it. -/
  number : Nat
  processes : List JobProcess := []
  /-- It has ended, and nobody has been told. -/
  changed : Bool := false
  /-- Somebody has waited for it. -/
  waited : Bool := false
  deriving DecidableEq, Repr, Inhabited

/-- All processes of the job have ended. -/
def Job.isDone (j : Job) : Bool := j.processes.all (·.ended.isSome)

/-- Something as it was before it became local. -/
inductive Remembered where
  | variable (name : Letters) (old : Option Variable)
  | settings (old : List Setting)
  deriving DecidableEq, Repr, Inhabited

/-- The state of a shell. -/
structure State where
  name : Letters := []
  args : List Letters := []
  /-- The next argument that `getopts` looks at, and how many letters of it are done. -/
  nextOption : Nat := 1
  optionOffset : Option Nat := none
  vars : List Variable := []
  functions : List Function := []
  aliases : List (Letters × Letters) := []
  documents : Array Word := #[]
  settings : List Setting := []
  /-- The status of the last command. -/
  status : Nat := 0
  /-- The status of the last command whose output was put into a word. -/
  outputStatus : Nat := 0
  /-- The status for the end of the shell, while a trap is carried out. -/
  savedStatus : Option Nat := none
  skipping : Option Skipping := none
  loops : Nat := 0
  /-- How many functions the current command is in. -/
  calls : Nat := 0
  /-- The line of the current command, and the line up to which the text has been read. -/
  line : Nat := 1
  readLine : Nat := 1
  /-- The builtin that is carried out. -/
  builtin : Option Letters := none
  /-- What to do when a signal arrives; zero stands for the end of the shell. -/
  traps : List (Nat × Letters) := []
  /-- Signals that have arrived while commands were passed by. -/
  arrived : List Nat := []
  jobs : List Job := []
  lastBackground : Option Nat := none
  /-- The number of the outermost shell. -/
  number : Nat := 0
  /-- Where descriptors led before the redirections that are in force, the latest first. -/
  redirected : List (List (Nat × Saved)) := []
  /-- What was there before something became local, the latest first. -/
  locals : List (List Remembered) := []
  /-- The prompt for shown commands is being expanded. -/
  inPrompt : Bool := false
  /-- What has been written but not been sent, the latest first. -/
  output : List Letters := []
  mask : Nat := 0o022
  /-- The limits that have been set, by letter. -/
  limits : List (Char × Letters) := []
  /-- The commands whose places are known. -/
  places : List (Letters × Letters) := []
  deriving Inhabited

/-- How the usual order of commands is left. -/
inductive Flow where
  /-- A command has failed in a way that ends a shell. -/
  | failed
  /-- The shell has been told to end. -/
  | told
  /-- There is nothing left to do. -/
  | ended
  deriving DecidableEq, Repr, Inhabited

/-- Something that a shell does, given what to do when the usual order is left and what to do with
the result. -/
def Act (α : Type) := State → (Flow → State → Task) → (α → State → Task) → Task

namespace Act

instance : Monad Act where
  pure a := fun st _ next => next a st
  bind a f := fun st left next => a st left fun x st => f x st left next

instance : LawfulMonad Act :=
  LawfulMonad.mk' Act (fun _ => rfl) (fun _ _ => rfl) (fun _ _ _ => rfl)

instance : MonadStateOf State Act where
  get := fun st _ next => next st st
  set st := fun _ _ next => next () st
  modifyGet f := fun st _ next => next (f st).1 (f st).2

instance {α : Type} : Inhabited (Act α) := ⟨fun st left _ => left .ended st⟩

end Act

/-- Leaves the usual order. -/
def leave {α : Type} (f : Flow) : Act α := fun st left _ => left f st

/-- Does something, and something else if the usual order is left. -/
def handling {α : Type} (a : Act α) (handler : Flow → Act α) : Act α :=
  fun st left next => a st (fun f st => handler f st left next) next

/-- Asks the world for something. -/
def ask (r : Request) : Act r.Reply := fun st _ next => .ask r fun a => next a st

/-- Starts another process. -/
def fork (child : State → Task) : Act Nat :=
  fun st _ next => .fork (child st) fun n => next n st

/-- Ends the process. -/
def endProcess {α : Type} (e : Exit) : Act α := fun _ _ _ => .ended e

/-- Waits for ever. -/
def stall {α : Type} : Act α := fun _ _ _ => .ask .never fun _ => .ended (.code 0)

/-! ## Settings and status -/

/-- A setting is on. -/
def State.has (st : State) (s : Setting) : Bool := st.settings.contains s

/-- A setting is on. -/
def isOn (s : Setting) : Act Bool := return (← get).has s

/-- Sets the status. -/
def setStatus (n : Nat) : Act Unit := modify fun st => { st with status := n }

/-! ## Writing -/

/-- Writes a text in as many pieces as it takes. The answer says whether that went well. -/
def send (d : Nat) : (rounds : Nat) → Letters → Act Bool
  | 0, _ => return true
  | rounds + 1, s => do
    match ← ask (.write d s) with
    | .error _ => return false
    | .ok n => if s.length ≤ n then return true else send d rounds (s.drop n)

/-- Writes a text at once. -/
def sendTo (d : Nat) (s : Letters) : Act Unit := do
  let _ ← send d s.length s

/-- Collects what a builtin writes. -/
def say (s : Letters) : Act Unit := modify fun st => { st with output := s :: st.output }

/-- Sends what has been collected. -/
def flush : Act Bool := do
  let chunks := (← get).output
  if chunks.isEmpty then return true
  modify fun st => { st with output := [] }
  let s := chunks.reverse.flatten
  if s.isEmpty then return true else send 1 s.length s

/-- A complaint of the shell, with its name, the line and the builtin. -/
def State.complaint (st : State) (text : Letters) : Letters :=
  let mark := Letters.ofText ": "
  st.name ++ mark ++ Letters.ofNat st.line ++ mark ++
    ((st.builtin.map (· ++ mark)).getD []) ++ text ++ ['\n']

/-- Writes a complaint to the error output. -/
def complain (text : Letters) : Act Unit := do
  sendTo 2 ((← get).complaint text)

/-- Complains, and fails with a status. -/
def failWith {α : Type} (status : Nat) (text : Letters) : Act α := do
  setStatus status
  complain text
  leave .failed

/-- Complains, and fails. -/
def abort {α : Type} (text : Letters) : Act α := failWith 2 text

/-- The text of a complaint about something. -/
def about (what : Letters) (fault : String) : Letters := what ++ Letters.ofText fault

/-- Complains about the syntax, and fails. -/
def abortSyntax {α : Type} (text : String) : Act α := do
  modify fun st => { st with line := st.readLine }
  abort (Letters.ofText ("Syntax error: " ++ text))

/-! ## Variables -/

/-- A variable. -/
def State.var? (st : State) (name : Letters) : Option Variable :=
  st.vars.find? (·.name == name)

/-- The value of a variable. -/
def State.valueOf? (st : State) (name : Letters) : Option Letters :=
  (st.var? name).bind Variable.value

/-- The value of a variable, or nothing. -/
def State.valueOr (st : State) (name : String) (other : Letters) : Letters :=
  (st.valueOf? (Letters.ofText name)).getD other

/-- Puts a variable in place of the one of its name. -/
def putVariable (v : Variable) (vs : List Variable) : List Variable :=
  if vs.any (·.name == v.name) then vs.map fun w => if w.name == v.name then v else w
  else vs ++ [v]

/-- A number of 63 bits, with which a decimal text begins. -/
def leadingNumber (s : Letters) : Nat := (Letters.nat? (s.takeWhile Char.isDigit)).getD 0

/-- Changes that a new value of a variable brings along. -/
def State.noticing (st : State) (name : Letters) (value : Letters) : State :=
  match String.ofList name with
  | "OPTIND" => { st with nextOption := max 1 (leadingNumber value), optionOffset := none }
  | "PATH" => { st with places := [] }
  | _ => st

/-- Gives a variable a value, and marks it if that is asked for. -/
def State.withValue (st : State) (name value : Letters) (exported : Bool) : State :=
  let old := (st.var? name).getD ⟨name, none, false, false⟩
  let new := { old with
    value := some value, exported := old.exported || exported || st.has .allexport }
  { st with vars := putVariable new st.vars }.noticing name value

/-- Complains if a name cannot be that of a variable, or the variable cannot be changed. -/
def requireVariable (name : Letters) : Act Unit := do
  if !Letters.isName name then abort (about name ": bad variable name")
  if ((← get).var? name).any (·.constant) then abort (about name ": is read only")

/-- Complains if a variable cannot have a value because it must be a number. -/
def requireValue (name value : Letters) : Act Unit := do
  if name == Letters.ofText "OPTIND" && (Letters.nat? value).isNone then
    abort (Letters.ofText "Illegal number: " ++ value)

/-- Gives a variable a value, if that is possible. -/
def assign (name value : Letters) (exported : Bool := false) : Act Unit := do
  requireVariable name
  requireValue name value
  modify fun st => st.withValue name value exported

/-- Removes a variable, if that is possible. -/
def unsetVariable (name : Letters) : Act Unit := do
  requireVariable name
  requireValue name []
  modify fun st => { st with vars := st.vars.filter (·.name != name) }.noticing name []

/-- Remembers something, so that it can be what it was before. -/
def remember (x : State → Remembered) : Act Unit :=
  modify fun st =>
    match st.locals with
    | top :: below => { st with locals := (x st :: top) :: below }
    | [] => st

/-- Remembers a variable. -/
def rememberVariable (name : Letters) : Act Unit :=
  remember fun st => .variable name (st.var? name)

/-- Remembers the settings. -/
def rememberSettings : Act Unit := remember fun st => .settings st.settings

/-- Opens a scope for local variables. -/
def openScope : Act Unit := modify fun st => { st with locals := [] :: st.locals }

/-- The state with something as it was. -/
def State.restoring (st : State) : Remembered → State
  | .variable name (some v) =>
    { st with vars := putVariable v st.vars }.noticing name (v.value.getD [])
  | .variable name none =>
    { st with vars := st.vars.filter (·.name != name) }.noticing name []
  | .settings old => { st with settings := old }

/-- Closes scopes until `depth` of them are left. -/
def closeScopes (depth : Nat) : Act Unit :=
  modify fun st =>
    let extra := st.locals.take (st.locals.length - depth)
    { extra.flatten.foldl State.restoring st with
      locals := st.locals.drop (st.locals.length - depth) }

/-- The variables that other programs are told about. -/
def State.environment (st : State) : List (Letters × Letters) :=
  st.vars.filterMap fun v => if v.exported then v.value.map (v.name, ·) else none

/-- The characters that separate fields unless others are asked for. -/
def usualSeparators : Letters := [' ', '\t', '\n']

/-- The characters that separate fields. -/
def State.separators (st : State) : Letters := st.valueOr "IFS" usualSeparators

/-! ## Parameters -/

/-- The settings that are on, as letters. -/
def State.settingLetters (st : State) : Letters :=
  Setting.all.reverse.filterMap fun s => if st.has s.1 then s.2.2 else none

/-- The value of a parameter that has one value. -/
def State.param? (st : State) (name : Letters) : Option Letters :=
  match name with
  | ['?'] => some (Letters.ofNat st.status)
  | ['#'] => some (Letters.ofNat st.args.length)
  | ['$'] => some (Letters.ofNat st.number)
  | ['!'] => st.lastBackground.map Letters.ofNat
  | ['-'] => some st.settingLetters
  | name =>
    match Letters.nat? name with
    | some 0 => some st.name
    | some k => st.args[k - 1]?
    | none => st.valueOf? name

end LintDispatch.Shell
