import LintDispatch.Machine.Search
import LintDispatch.Shell.State

/-!
# Looking up commands
The name of a command is that of a function, of a builtin or of a program in one of the directories
for programs. A name with a slash in it is a path.
-/

namespace LintDispatch.Shell

open LintDispatch.Machine

/-- The builtins that a function can replace. -/
def regularNames : List String :=
  ["[", "alias", "bg", "cd", "chdir", "command", "echo", "false", "fg", "getopts", "hash", "jobs",
   "kill", "printf", "pwd", "read", "test", "true", "type", "ulimit", "umask", "unalias", "wait"]

/-- The name is that of a builtin after whose failure the shell ends. -/
def isSpecial (name : Letters) : Bool := specialNames.contains (String.ofList name)

/-- The name is that of a builtin. -/
def isBuiltin (name : Letters) : Bool :=
  isSpecial name || regularNames.contains (String.ofList name)

/-- Where the command of a name is. -/
inductive Location where
  | function (f : Function)
  | builtin
  | program (path : Letters)
  | nowhere (e : HostError)
  deriving Inhabited

/-- The directories for programs. -/
def State.path (st : State) : Letters := st.valueOr "PATH" []

/-- Remembers where a program is. -/
def State.knowing (st : State) (name path : Letters) : State :=
  { st with places := st.places.filter (·.1 != name) ++ [(name, path)] }

/-- Looks a name up. `path` holds other directories than the usual ones; functions may be passed
over. -/
def locate (functions : Bool) (path : Option Letters) (name : Letters) : Act Location := do
  let st ← get
  match if functions then st.functions.find? (·.name == name) else none with
  | some f => return .function f
  | none =>
    if isPath name then return .program name
    else if isBuiltin name then return .builtin
    else
      match if path.isNone then st.places.find? (·.1 == name) else none with
      | some (_, p) => return .program p
      | none =>
        let fs : FileSystem ← ask .view
        match findProgram fs (path.getD st.path) name with
        | .error e => return .nowhere e
        | .ok p =>
          if path.isNone then modify (·.knowing name p)
          return .program p

/-- Why a program cannot be carried out, as the shell says it. -/
def programFault (e : HostError) : Letters :=
  match e with
  | .missing | .notDirectory => Letters.ofText "not found"
  | e => Letters.ofText e.reason

/-- The status after a program could not be carried out. -/
def faultStatus (e : HostError) : Nat :=
  match e with
  | .missing | .notDirectory | .nameTooLong => 127
  | _ => 126

end LintDispatch.Shell
