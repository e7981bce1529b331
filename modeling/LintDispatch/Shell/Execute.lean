import LintDispatch.Shell.Lookup
import LintDispatch.Utility.Basic

/-!
# Programs in place of a shell
A program takes over the process of a shell, with its arguments and the variables that are meant for
others. A file that is no program, but may be executed, is given to a new shell.
-/

namespace LintDispatch.Shell

open LintDispatch.Machine LintDispatch.Utility

/-- The path of the shell. -/
def shellPath : Letters := Letters.ofText "/bin/sh"

/-- The task of the program at a path. -/
def taskAt (launch : Launcher) (fs : FileSystem) (path : Letters) (i : Invocation) :
    Except HostError Task :=
  match launch fs path i with
  | .error .noProgram => launch fs shellPath { i with name := shellPath, args := path :: i.args }
  | r => r

/-- Lets the program at a path take over. The answer says why that is impossible. -/
def takeOver (launch : Launcher) (path : Letters) (i : Invocation) : Act HostError := do
  let fs : FileSystem ← ask .view
  match taskAt launch fs path i with
  | .error e => return e
  | .ok task => fun _ _ _ => .ask .takeOver fun _ => task

/-- What a program is started with. -/
def invocation (name : Letters) (args : List Letters) : Act Invocation :=
  return { name := name, args := args, env := (← get).environment }

/-- Lets a program of a name take over, wherever it is. If that is impossible, the shell ends. -/
def execute {α : Type} (launch : Launcher) (name : Letters) (args : List Letters) : Act α := do
  let i ← invocation name args
  let st ← get
  let fs : FileSystem ← ask .view
  let e ← match if isPath name then .ok name else findProgram fs st.path name with
    | .error e => pure e
    | .ok path => takeOver launch path i
  setStatus (faultStatus e)
  complain (name ++ Letters.ofText ": " ++ programFault e)
  leave .ended

end LintDispatch.Shell
