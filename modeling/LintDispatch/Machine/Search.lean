import LintDispatch.FileSystem
import LintDispatch.Machine.Letters

/-!
# Looking for programs
A program that is called by a name is looked for in several directories, one after the other; a name
with a slash in it is a path.
-/

namespace LintDispatch.Machine

/-- The name is a path. -/
def isPath (name : Letters) : Bool := name.contains '/'

/-- The directories for programs if none are named. -/
def usualPath : Letters :=
  Letters.ofText "/usr/local/sbin:/usr/local/bin:/usr/sbin:/usr/bin:/sbin:/bin"

/-- The paths at which a file of this name may be; `path` holds directories between colons. -/
def candidates (path name : Letters) : List Letters :=
  (path.splitOn ':').map fun dir => if dir.isEmpty then name else dir ++ '/' :: name

/-- The first program among some paths, or why there is none. -/
def firstProgram (fs : FileSystem) (e : HostError) : List Letters → Except HostError Letters
  | [] => .error e
  | p :: ps =>
    match fs.lookup (Letters.bytes p), fs.locate (Letters.bytes p) with
    | .ok (.file _), .ok spot =>
      if fs.runnable.contains spot then .ok p else firstProgram fs .denied ps
    | .ok _, _ => firstProgram fs .denied ps
    | .error .missing, _ | .error .notDirectory, _ => firstProgram fs e ps
    | .error e, _ => firstProgram fs e ps

/-- The program of a name that has no slash in it. -/
def findProgram (fs : FileSystem) (path name : Letters) : Except HostError Letters :=
  firstProgram fs .missing (candidates path name)

end LintDispatch.Machine
