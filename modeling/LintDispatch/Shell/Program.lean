import LintDispatch.Shell.Run

/-!
# The shell as a program
A shell reads its commands from an argument, from a file or from its standard input. It begins with
the variables that it has been told about, and ends with the status of its last command.
-/

namespace LintDispatch.Shell

open LintDispatch.Machine LintDispatch.Utility

/-- How deeply the functions of a shell may call each other. -/
def fuel : Nat := 1000000000000

/-- The variables of a new shell, and whether others are told about them. -/
def firstVariables (env : Environment) : List Variable :=
  let told := (env.filter fun v => Letters.isName v.1).map fun v =>
    (⟨v.1, some v.2, true, false⟩ : Variable)
  let own (name : String) (value : Letters) : Variable :=
    ⟨Letters.ofText name, some value, false, false⟩
  let usual := [own "PATH" usualPath, own "PS1" (Letters.ofText "# "),
    own "PS2" (Letters.ofText "> "), own "PS4" (Letters.ofText "+ ")]
  let fixed := [own "IFS" usualSeparators, own "OPTIND" ['1']]
  fixed.foldl (fun vs v => putVariable v vs) (told.foldl (fun vs v => putVariable v vs) usual)

/-- The state of a new shell. -/
def firstState (i : Invocation) : State := { name := i.name, vars := firstVariables i.env, line := 0 }

/-- Finds out who and where the shell is. -/
def orient : Act Unit := do
  let (own, parent) : Nat × Nat ← ask .numbers
  modify fun st => { st with number := own }
  assign (Letters.ofText "PPID") (Letters.ofNat parent)
  assign (Letters.ofText "PWD") (← workingPath) true

section

variable (launch : Launcher)

/-- Carries out the commands that a descriptor leads to. -/
def runFrom (d : Nat) : Act Unit := do
  let _ ← text launch fuel {} (some d) { complete := false } 0
  endSkippingBack

/-- Reads commands from the standard input. -/
def runInput : Act Unit := do
  switch true .stdin
  runFrom launch 0

/-- Carries out a command that is an argument; a name and more arguments may follow it. -/
def runArgument (command : Letters) (args : List Letters) : Act Unit := do
  match args with
  | [] => pure ()
  | name :: args => modify fun st => { st with name := name, args := args }
  let _ ← text launch fuel {} none { rest := command } 0
  if ← isOn .stdin then runInput launch

/-- Does what the arguments ask for. -/
def start (args : List Letters) : Act Unit := do
  orient
  let s ← switchAll true args.length args
  if ← isOn .interactive then switch true .monitor
  requireTerminal
  match s.command, s.args with
  | true, [] => abort (Letters.ofText "-c requires an argument")
  | true, command :: args => runArgument launch command args
  | false, args =>
    if args.isEmpty || (← isOn .stdin) then
      setArguments args
      runInput launch
    else
      let path := args.headD []
      let d ← openCommands path
      modify fun st => { st with name := path, args := args.tail }
      runFrom launch d

end

/-- The shell. -/
def program : Program := fun i launch => shellTask launch fuel (start launch i.args) (firstState i)

end LintDispatch.Shell
