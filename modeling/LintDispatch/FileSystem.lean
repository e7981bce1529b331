import LintDispatch.HostError
import LintDispatch.Path

/-!
# The file system
The files and directories that a run can see. A place is reached by walking the names of a path
from the root or from the working directory: every name but the last must be that of a directory.
`FileSystem.read`, `write`, `unlink` and `makeDir` answer as an operating system does, and
`node?_put` and `node?_erase` say what a change does to every place.
-/

namespace LintDispatch

/-- A place in the file system: the names from the root down to it. -/
abbrev Place := List Bytes

/-- A device that takes what is written to it, and keeps nothing. -/
inductive Device where
  /-- There is nothing to read. -/
  | null
  /-- Zeros are read without end. -/
  | zero
  /-- Zeros are read without end, and nothing can be written. -/
  | full
  /-- A terminal that is not there, so the device cannot be opened. -/
  | terminal
  deriving DecidableEq, Repr, Inhabited

/-- What is at a place. -/
inductive Node where
  | file (content : Bytes)
  | dir
  | device (d : Device)
  deriving DecidableEq, Repr, Inhabited

/-- The files and directories below the root, and the directory that relative paths start from. -/
structure FileSystem where
  entries : List (Place × Node) := []
  workingDir : Place := []
  /-- The files that may be executed. -/
  runnable : List Place := []
  deriving DecidableEq, Repr, Inhabited

namespace FileSystem

/-- What is at a place. The root is always a directory. -/
def node? (fs : FileSystem) (spot : Place) : Option Node :=
  if spot = [] then some .dir else (fs.entries.find? (·.1 = spot)).map (·.2)

/-- Puts a node at a place, whatever was there. -/
def put (fs : FileSystem) (spot : Place) (n : Node) : FileSystem :=
  { fs with entries := (spot, n) :: fs.entries.filter (·.1 ≠ spot) }

/-- Leaves nothing at a place. -/
def erase (fs : FileSystem) (spot : Place) : FileSystem :=
  { fs with
    entries := fs.entries.filter (·.1 ≠ spot), runnable := fs.runnable.filter (· ≠ spot) }

/-- The names in a directory. -/
def names (fs : FileSystem) (spot : Place) : List Bytes :=
  fs.entries.filterMap fun e =>
    if e.1 ≠ [] ∧ e.1.dropLast = spot then e.1.getLast? else none

theorem find?_filter_ne (es : List (Place × Node)) {spot l : Place} (h : l ≠ spot) :
    (es.filter (·.1 ≠ spot)).find? (·.1 = l) = es.find? (·.1 = l) := by
  induction es with
  | nil => rfl
  | cons e es ih =>
    by_cases he : e.1 = spot
    · have : ¬e.1 = l := fun h' => h (h' ▸ he)
      simp_all
    · by_cases hl : e.1 = l <;> simp_all

@[simp] theorem node?_put_self (fs : FileSystem) {spot : Place} (n : Node) (h : spot ≠ []) :
    (fs.put spot n).node? spot = some n := by
  simp [node?, put, h]

@[simp] theorem node?_put_of_ne (fs : FileSystem) {spot l : Place} (n : Node) (h : l ≠ spot) :
    (fs.put spot n).node? l = fs.node? l := by
  have h' : ¬spot = l := fun e => h e.symm
  simp only [node?, put, List.find?_cons, h', decide_false, find?_filter_ne _ h]

@[simp] theorem node?_erase_self (fs : FileSystem) {spot : Place} (h : spot ≠ []) :
    (fs.erase spot).node? spot = none := by
  simp [node?, erase, h]

@[simp] theorem node?_erase_of_ne (fs : FileSystem) {spot l : Place} (h : l ≠ spot) :
    (fs.erase spot).node? l = fs.node? l := by
  simp only [node?, erase, find?_filter_ne _ h]

/-! ## Walking a path -/

/-- The longest name and the longest path that the host accepts. -/
def maxName : Nat := 255
def maxPath : Nat := 4095

/-- Walks the stretches between the slashes of a path, starting at the place `here`. -/
def walk (fs : FileSystem) (here : Place) : List Bytes → Except HostError Place
  | [] => .ok here
  | part :: parts =>
    match fs.node? here with
    | none => .error .missing
    | some (.file _) | some (.device _) => .error .notDirectory
    | some .dir =>
      if maxName < part.length then .error .nameTooLong
      else match Path.component part with
        | some .up => fs.walk here.dropLast parts
        | some (.name n) => fs.walk (here ++ [n]) parts
        | _ => fs.walk here parts

/-- The place that a path leads to. Nothing needs to be there, but all directories above it do. -/
def locate (fs : FileSystem) (p : Path) : Except HostError Place :=
  if p.isEmpty then .error .missing
  else if p.contains 0 then .error .zeroInPath
  else if maxPath < p.length then .error .nameTooLong
  else fs.walk (if p.isAbsolute then [] else fs.workingDir) (Bytes.splitOn Path.slash p)

/-- What a path leads to. -/
def lookup (fs : FileSystem) (p : Path) : Except HostError Node :=
  match fs.locate p with
  | .error e => .error e
  | .ok l =>
    match fs.node? l with
    | none => .error .missing
    | some n => .ok n

/-- Something exists at the path. -/
def exists? (fs : FileSystem) (p : Path) : Bool :=
  match fs.lookup p with
  | .ok _ => true
  | .error _ => false

/-- A file exists at the path. -/
def isFile (fs : FileSystem) (p : Path) : Bool :=
  match fs.lookup p with
  | .ok (.file _) => true
  | _ => false

/-- A directory exists at the path. -/
def isDir (fs : FileSystem) (p : Path) : Bool :=
  match fs.lookup p with
  | .ok .dir => true
  | _ => false

/-! ## Files -/

/-- The content of the file at the path. A device that never ends is read as if it were empty. -/
def read (fs : FileSystem) (p : Path) : Except HostError Bytes :=
  match fs.lookup p with
  | .error e => .error e
  | .ok .dir => .error .isDirectory
  | .ok (.file content) => .ok content
  | .ok (.device .terminal) => .error .noDevice
  | .ok (.device _) => .ok []

/-- The path ends in a slash, so it cannot name a new file. -/
def endsInSlash (p : Path) : Bool := p.getLast? == some Path.slash

/-- The path without the slashes at its end; of the root alone one slash stays. -/
def withoutEndSlashes (p : Path) : Path :=
  if p.all (· == Path.slash) then p.take 1 else (p.reverse.dropWhile (· == Path.slash)).reverse

/-- The place of the file that writing to the path creates or replaces. -/
def target (fs : FileSystem) (p : Path) : Except HostError Place :=
  match fs.locate (withoutEndSlashes p) with
  | .error e => .error e
  | .ok l => if endsInSlash p ∨ fs.node? l = some .dir then .error .isDirectory else .ok l

/-- Gives a place this content. A device stays what it is. -/
def store (fs : FileSystem) (spot : Place) (content : Bytes) :
    Except HostError Unit × FileSystem :=
  match fs.node? spot with
  | some (.device .terminal) => (.error .noDevice, fs)
  | some (.device .full) => (if content.isEmpty then .ok () else .error .noSpace, fs)
  | some (.device _) => (.ok (), fs)
  | _ => (.ok (), fs.put spot (.file content))

/-- Gives the file at the path this content, creating the file if there is none. -/
def write (fs : FileSystem) (p : Path) (content : Bytes) : Except HostError Unit × FileSystem :=
  match fs.target p with
  | .error e => (.error e, fs)
  | .ok l => fs.store l content

/-- Removes the file at the path. -/
def unlink (fs : FileSystem) (p : Path) : Except HostError Unit × FileSystem :=
  match fs.locate p with
  | .error e => (.error e, fs)
  | .ok l =>
    match fs.node? l with
    | none => (.error .missing, fs)
    | some .dir => (.error .isDirectory, fs)
    | some _ => (.ok (), fs.erase l)

/-! ## Directories -/

/-- Creates one directory. -/
def makeDir (fs : FileSystem) (p : Path) : Except HostError Unit × FileSystem :=
  match fs.locate (withoutEndSlashes p) with
  | .error e => (.error e, fs)
  | .ok l =>
    match fs.node? l with
    | some _ => (.error .alreadyThere, fs)
    | none => (.ok (), fs.put l .dir)

/-- Walks like `walk` and creates the directories that are missing on the way. -/
def walkMaking (fs : FileSystem) (here : Place) : List Bytes → Except HostError Unit × FileSystem
  | [] => (.ok (), fs)
  | part :: parts =>
    if maxName < part.length then (.error .nameTooLong, fs)
    else match Path.component part with
      | some .up => fs.walkMaking here.dropLast parts
      | some (.name n) =>
        let next := here ++ [n]
        match fs.node? next with
        | some .dir => fs.walkMaking next parts
        | some _ => (.error (if parts.all (·.isEmpty) then .alreadyThere else .notDirectory), fs)
        | none => (fs.put next .dir).walkMaking next parts
      | _ => fs.walkMaking here parts

/-- Creates the directory at the path and those above it, as far as they are missing. -/
def makeDirs (fs : FileSystem) (p : Path) : Except HostError Unit × FileSystem :=
  if p.isEmpty then (.ok (), fs)
  else if p.contains 0 then (.error .zeroInPath, fs)
  else if maxPath < p.length then (.error .nameTooLong, fs)
  else fs.walkMaking (if p.isAbsolute then [] else fs.workingDir) (Bytes.splitOn Path.slash p)

/-- The file system with a working directory and those above it. -/
def startingAt (fs : FileSystem) (dir : Path) : FileSystem :=
  let spot := (Bytes.splitOn Path.slash dir).filter fun n => !n.isEmpty
  ({ fs with workingDir := spot }.makeDirs dir).2

/-- Gives the file at the path this content, creating the directories above it as well. -/
def writeWithDirs (fs : FileSystem) (p : Path) (content : Bytes) : FileSystem :=
  ((fs.makeDirs (p.parent?.getD [])).2.write p content).2

/-- Removes everything at and below a place. -/
def eraseTree (fs : FileSystem) (spot : Place) : FileSystem :=
  { fs with
    entries := fs.entries.filter fun e => !spot.isPrefixOf e.1
    runnable := fs.runnable.filter fun s => !spot.isPrefixOf s }

/-- Removes an empty directory. -/
def removeDir (fs : FileSystem) (p : Path) : Except HostError Unit × FileSystem :=
  match fs.locate p with
  | .error e => (.error e, fs)
  | .ok l =>
    match fs.node? l with
    | none => (.error .missing, fs)
    | some .dir =>
      if l.isEmpty then (.error .notPermitted, fs)
      else if (fs.names l).isEmpty then (.ok (), fs.erase l) else (.error .notEmpty, fs)
    | some _ => (.error .notDirectory, fs)

/-- Moves everything at and below a place to another place, where nothing is left of what was
there. -/
def moveTree (fs : FileSystem) (spot target : Place) : FileSystem :=
  let moved (l : Place) : Place := if spot.isPrefixOf l then target ++ l.drop spot.length else l
  let fs := fs.eraseTree target
  { fs with
    entries := fs.entries.map fun e => (moved e.1, e.2), runnable := fs.runnable.map moved }

/-- Copies everything at and below a place to another place. -/
def copyTree (fs : FileSystem) (spot target : Place) : FileSystem :=
  let copied (l : Place) : Place := target ++ l.drop spot.length
  let more := fs.entries.filter fun e => spot.isPrefixOf e.1
  let runnable := fs.runnable.filter fun l => spot.isPrefixOf l
  let fs := more.foldr (fun e fs => fs.put (copied e.1) e.2) fs
  { fs with runnable := runnable.map copied ++ fs.runnable }

/-- A path spelled from the root, for a place. -/
def pathOf (spot : Place) : Path :=
  if spot.isEmpty then [Path.slash] else spot.flatMap (Path.slash :: ·)

/-- The path of the working directory. -/
def workingPath (fs : FileSystem) : Path := pathOf fs.workingDir

end FileSystem

end LintDispatch
