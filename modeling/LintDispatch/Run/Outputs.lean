import LintDispatch.Run.Session

/-!
# Output files in use
An output file is asked for or named, whoever knows its path does something there, it is read, and
in the end it is dropped. Many of them may be in use at the same time, and the steps with them may
come in any order; all of them share the files.
-/

namespace LintDispatch

/-- What is done at the path of an output file by whoever knows it. -/
inductive Touch where
  | write (content : Bytes)
  | unlink
  | makeDir
  /-- The directories above are created as well, as far as they are missing. -/
  | makeDirs
  deriving DecidableEq, Repr

/-- Does it to the files. -/
def Touch.apply (fs : FileSystem) (p : Path) : Touch → Except HostError Unit × FileSystem
  | write content => fs.write p content
  | unlink => fs.unlink p
  | makeDir => fs.makeDir p
  | makeDirs => fs.makeDirs p

/-- An output file that somebody holds or has held. -/
structure Slot where
  output : OutputFile
  /-- It has not been dropped. -/
  live : Bool := true
  /-- What was last written to it. -/
  written : Option Bytes := none
  deriving DecidableEq, Repr

namespace Slot

/-- The path of the output file. -/
def path (slot : Slot) : Path := slot.output.path

/-- The slot after something was done at its path, with this answer. -/
def touched (slot : Slot) : Touch → Except HostError Unit → Slot
  | .write content, .ok () => { slot with written := some content }
  | _, _ => slot

@[simp] theorem path_touched (slot : Slot) (t : Touch) (r : Except HostError Unit) :
    (slot.touched t r).path = slot.path := by
  unfold touched
  split <;> rfl

end Slot

/-- The files, where new output files come from, and the output files so far. -/
structure Outputs (τ : Type) where
  files : FileSystem
  provider : τ
  slots : List Slot := []

namespace Outputs

/-- A step with the output files, which are numbered from the first one on. -/
inductive Step where
  /-- A new temporary file is asked for. -/
  | new
  /-- A path is named that somebody else manages. -/
  | unmanaged (path : Path)
  | touch (i : Nat) (t : Touch)
  | read (i : Nat)
  | drop (i : Nat)
  deriving DecidableEq, Repr

/-- What a step answers. -/
inductive Reply where
  | nothing
  | done (answer : Except HostError Unit)
  | content (answer : Except HostError (Option Bytes))
  deriving Repr

variable {τ : Type}

/-- Takes a step. An output file that was dropped cannot be read any more, and is not dropped
again. -/
def step (p : Provider τ) (s : Outputs τ) : Step → Reply × Outputs τ
  | .new =>
    match p.request s.provider s.files with
    | (.error e, t, fs) => (.done (.error e), { s with files := fs, provider := t })
    | (.ok o, t, fs) =>
      (.done (.ok ()), ⟨fs, t, s.slots ++ [{ output := o, written := some [] }]⟩)
  | .unmanaged path => (.nothing, { s with slots := s.slots ++ [{ output := ⟨path, false⟩ }] })
  | .touch i t =>
    match s.slots[i]? with
    | none => (.nothing, s)
    | some slot =>
      match t.apply s.files slot.path with
      | (r, fs) => (.done r, { s with files := fs, slots := s.slots.set i (slot.touched t r) })
  | .read i =>
    match s.slots[i]? with
    | none => (.nothing, s)
    | some slot => (if slot.live then .content (slot.output.read s.files) else .nothing, s)
  | .drop i =>
    match s.slots[i]? with
    | none => (.nothing, s)
    | some slot =>
      (.nothing, { s with
        files := if slot.live then slot.output.release s.files else s.files
        slots := s.slots.set i { slot with live := false } })

/-- Takes some steps, one after the other. -/
def run (p : Provider τ) (s : Outputs τ) (steps : List Step) : Outputs τ :=
  steps.foldl (fun s next => (step p s next).2) s

end Outputs

end LintDispatch
