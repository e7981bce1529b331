import LintDispatch.CommandLine.Program
import LintDispatch.Machine.Standard
import LintDispatch.Run.Native

/-!
# The command line
Answers the request that the arguments make. The files that it is about are copied first, those
with settings and then those of the task, and the linter runs on the standard machine with these
copies, where workers can always be started. So the answer is that of `Program.answer`, and nothing
on the disk changes.
-/

open LintDispatch

namespace LintDispatch.Main

/-- Copies the file or the directory at a path, if there is one. -/
def copyPath (fs : FileSystem) (p : Path) : IO FileSystem := do
  try
    let real ← IO.FS.realPath (Utf8.lossy p)
    if ← real.isDir then return (fs.makeDirs p).2
    else return fs.writeWithDirs p (← IO.FS.readBinFile real).toList
  catch _ => return fs

/-- Copies what is at each of the paths. -/
def copyPaths (fs : FileSystem) (paths : List Path) : IO FileSystem := paths.foldlM copyPath fs

/-- The files that a request is about. -/
def filesFor (r : Arguments.Request) (dir : Path) : IO FileSystem := do
  let fs ← copyPaths (Machine.hostFiles.startingAt dir) (Program.settingsPaths r)
  match Program.task fs r with
  | .error _ => return fs
  | .ok t => copyPaths fs t.paths

/-- Answers a request in a directory, with temporary files in another one. -/
def answer (r : Arguments.Request) (dir temp : Path) : IO Answer := do
  let fs := ((← filesFor r dir).makeDirs temp).2
  let session : Session Unit TempFiles :=
    { runner := (), provider := { defaultDir := temp }, host := { files := fs } }
  return (Program.answer (Native.executor Machine.standard) (.atWork []) r session).1

end LintDispatch.Main

/-- Reads the arguments, answers, and ends with the exit code of the answer. -/
def main (args : List String) : IO UInt32 := do
  match Arguments.parse (args.map Bytes.ofString) with
  | .error .version =>
    IO.print Program.version
    return 0
  | .error .help =>
    IO.print Program.help
    return 0
  | .error .usage =>
    IO.eprint Program.usageError
    return 2
  | .ok r =>
    let dir := Bytes.ofString (← IO.currentDir).toString
    let temp := Bytes.ofString ((← IO.getEnv "TMPDIR").getD "/tmp")
    let a ← LintDispatch.Main.answer r dir temp
    IO.print a.stdout
    match a.error with
    | some e => IO.eprintln e.message
    | none => pure ()
    return UInt32.ofNat a.exitCode
