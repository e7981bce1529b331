import LintDispatch.FileSystem

/-!
# Output files
Where the report of one batch is written. A temporary output file is removed when its batch is
over; any other one is left to whoever named it. New temporary files get a name that nothing in
their directory has, so two batches never share a report.
-/

namespace LintDispatch

/-- The file that the report of a batch is written to. -/
structure OutputFile where
  path : Path
  /-- The file is removed when it is released. -/
  temporary : Bool := false
  deriving DecidableEq, Repr, Inhabited

namespace OutputFile

/-- What is in the file: nothing at all if there is no file. -/
def read (o : OutputFile) (fs : FileSystem) : Except HostError (Option Bytes) :=
  match fs.read o.path with
  | .ok content => .ok (some content)
  | .error .missing => .ok none
  | .error e => .error e

/-- Releases the file. A temporary one is removed, if it is still a file. -/
def release (o : OutputFile) (fs : FileSystem) : FileSystem :=
  if o.temporary then (fs.unlink o.path).2 else fs

end OutputFile

/-- A source of temporary files in one directory, or in the default one. -/
structure TempFiles where
  /-- The directory; without one the files go to `defaultDir`. -/
  dir : Option Path := none
  /-- The directory for temporary files of the host. -/
  defaultDir : Path
  /-- How many names have been tried. -/
  tried : Nat := 0
  deriving DecidableEq, Repr, Inhabited

namespace TempFiles

/-- What every name begins with. -/
def nameStart : String := "lintbatch-"
/-- What every name ends with. -/
def nameEnd : String := ".json"

/-- The letters of the part between. -/
def letter (n : Nat) : UInt8 :=
  if n < 10 then UInt8.ofNat (48 + n)
  else if n < 36 then UInt8.ofNat (65 + (n - 10))
  else UInt8.ofNat (97 + (n - 36))

/-- Six letters for a number, the lowest first. -/
def letters (n : Nat) : Bytes :=
  (List.range 6).map fun k => letter (n / Nat.pow 62 k % 62)

/-- The `n`-th name. -/
def name (n : Nat) : Bytes := Bytes.ofString nameStart ++ letters n ++ Bytes.ofString nameEnd

/-- The directory as a path from the root. -/
def absoluteDir (t : TempFiles) (fs : FileSystem) : Path :=
  Path.join fs.workingPath (t.dir.getD t.defaultDir)

/-- Tries names until one is free, at most `attempts` of them. -/
def create (t : TempFiles) (fs : FileSystem) :
    (attempts : Nat) → Except HostError OutputFile × TempFiles × FileSystem
  | 0 => (.error (.other "too many temporary files exist"), t, fs)
  | attempts + 1 =>
    let path := Path.join (t.absoluteDir fs) (name t.tried)
    let t' := { t with tried := t.tried + 1 }
    match fs.lookup path with
    | .ok _ => create t' fs attempts
    | .error .missing =>
      match fs.write path [] with
      | (.ok (), fs') => (.ok ⟨path, true⟩, t', fs')
      | (.error e, fs') => (.error e, t', fs')
    | .error e => (.error e, t', fs)

/-- A new empty file at a path where nothing was. -/
def new (t : TempFiles) (fs : FileSystem) : Except HostError OutputFile × TempFiles × FileSystem :=
  t.create fs (fs.entries.length + 1)

end TempFiles

end LintDispatch
