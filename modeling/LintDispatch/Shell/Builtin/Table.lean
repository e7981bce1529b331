import LintDispatch.Shell.Builtin.Places
import LintDispatch.Shell.Builtin.Processes
import LintDispatch.Shell.Builtin.Text

/-!
# The builtins
The builtins that need nothing but their arguments and the state of the shell, by name.
-/

namespace LintDispatch.Shell

open LintDispatch.Machine

/-- The number of an argument; without one it is `other`. -/
def numberOr (other : Nat) : List Letters → Act Nat
  | [] => return other
  | a :: _ => numberOf a

/-- Passes by the rest of some loops, or of one round of them. -/
def passLoops (skipping : Nat → Skipping) : Builtin := fun args => do
  let n ← numberOr 1 args
  if n == 0 then illegalNumber (args.headD [])
  let n := min n (← get).loops
  if 0 < n then modify fun st => { st with skipping := some (skipping n) }
  return 0

/-- Passes by the rest of a function or of a file. -/
def returnBuiltin : Builtin := fun args => do
  let status ← numberOr (← get).status args
  modify fun st => { st with skipping := some (.back args.isEmpty) }
  return status

/-- Ends the shell. -/
def exit : Builtin := fun args => do
  if !args.isEmpty then
    let n ← numberOr 0 args
    modify fun st => { st with savedStatus := some n }
  leave .told

/-- What a builtin of this name does. -/
def builtin? (name : Letters) : Option Builtin :=
  match String.ofList name with
  | ":" | "true" => some (Builtin.constant 0)
  | "false" => some (Builtin.constant 1)
  | "[" => some bracket
  | "alias" => some aliasBuiltin
  | "bg" | "fg" => some foreground
  | "break" => some (passLoops .leave)
  | "cd" | "chdir" => some cd
  | "command" => some commandBuiltin
  | "continue" => some (passLoops .again)
  | "echo" => some echo
  | "exit" => some exit
  | "export" => some exportBuiltin
  | "getopts" => some getopts
  | "hash" => some hash
  | "jobs" => some jobs
  | "kill" => some kill
  | "local" => some localBuiltin
  | "printf" => some printf
  | "pwd" => some pwd
  | "read" => some readBuiltin
  | "readonly" => some readonlyBuiltin
  | "return" => some returnBuiltin
  | "set" => some setBuiltin
  | "shift" => some shift
  | "test" => some testBuiltin
  | "times" => some times
  | "trap" => some trap
  | "type" => some typeBuiltin
  | "ulimit" => some ulimit
  | "umask" => some umask
  | "unalias" => some unalias
  | "unset" => some unset
  | "wait" => some wait
  | _ => none

/-- The arguments of these builtins may be assignments, which stay in one piece. -/
def takesAssignments (name : Letters) : Bool :=
  ["export", "readonly", "local"].contains (String.ofList name)

end LintDispatch.Shell
