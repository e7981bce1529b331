import LintDispatch.FileSystem
import LintDispatch.Machine.Letters

/-!
# Files that can be executed
A file that may be executed holds a program, or names on its first line another file that carries it
out. A program file holds a mark and the name of its program.
-/

namespace LintDispatch

/-- What a file that may be executed is. -/
inductive Image where
  | program (name : Letters)
  /-- Another file carries it out, with an argument before its own path. -/
  | script (interpreter : Letters) (argument : Option Letters)
  /-- It is no program. -/
  | other
  deriving DecidableEq, Repr, Inhabited

namespace Image

/-- What stands at the front of a program file. -/
def mark : Bytes := Bytes.ofString "\x7fELF\n"

/-- The content of the file of a program. -/
def fileOf (name : String) : Bytes := mark ++ Bytes.ofString name

/-- How much of the first line of a script counts. -/
def maxLine : Nat := 255

/-- What the content of a file makes it. -/
def ofContent (content : Bytes) : Image :=
  if mark.isPrefixOf content then .program (Letters.ofBytes (content.drop mark.length))
  else
    match Letters.ofBytes (content.take maxLine) with
    | '#' :: '!' :: rest =>
      let line := (rest.takeWhile (· != '\n')).dropWhile Letters.isBlank
      let (interpreter, more) := line.span fun c => !Letters.isBlank c
      let argument := ((more.reverse.dropWhile Letters.isBlank).reverse).dropWhile Letters.isBlank
      if interpreter.isEmpty then .other
      else .script interpreter (if argument.isEmpty then none else some argument)
    | _ => .other

/-- What is at a path, if it may be executed. -/
def atPath (fs : FileSystem) (path : Letters) : Except HostError Image :=
  let p := Letters.bytes path
  match fs.lookup p, fs.locate p with
  | .error e, _ | _, .error e => .error e
  | .ok (.file content), .ok spot =>
    if fs.runnable.contains spot then .ok (ofContent content) else .error .denied
  | .ok _, .ok _ => .error .denied

end Image

end LintDispatch
