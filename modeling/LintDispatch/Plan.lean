import LintDispatch.Command

/-!
# Plans
A plan cuts the files into batches that each fit on one command line. The cut is greedy: a file
joins the current batch as long as the line stays within the limit, and a file that is too long on
its own still gets a batch of its own.
-/

namespace LintDispatch

/-- The files of one command, and the position of the batch in the plan. -/
structure Batch where
  index : Nat
  files : List Path
  deriving DecidableEq, Repr, Inhabited

namespace Plan

/-- The length of the command line for a batch, with room for the output path set aside. -/
def renderedLength (config : Config) (files : List Path) : Nat :=
  Command.fixedLength config + files.flatten.length + files.length

@[simp] theorem renderedLength_nil (config : Config) :
    renderedLength config [] = Command.fixedLength config := rfl

theorem renderedLength_append (config : Config) (files more : List Path) :
    renderedLength config (files ++ more) =
      renderedLength config files + more.flatten.length + more.length := by
  simp only [renderedLength, List.flatten_append, List.length_append]
  omega

/-- Cuts the files greedily: `current` is the batch being filled and `used` the length of its
command line, `start` the length of a line without files. -/
def cut (limit start : Nat) (current : List Path) (used : Nat) : List Path → List (List Path)
  | [] => if current.isEmpty then [] else [current]
  | file :: files =>
    let grown := used + 1 + file.length
    if limit < grown ∧ ¬current.isEmpty then
      current :: cut limit start [file] (start + 1 + file.length) files
    else
      cut limit start (current ++ [file]) grown files

/-- The groups of files, in order. -/
def groups (config : Config) (files : List Path) : List (List Path) :=
  cut config.maxCommandLength.toNat (Command.fixedLength config) [] (Command.fixedLength config)
    files

/-- The batches of a usable configuration. -/
def batches (config : Config) (files : List Path) : List Batch :=
  (groups config files).mapIdx Batch.mk

end Plan

/-- The batches for the files, or the failure that says why the configuration is unusable. -/
def plan (config : Config) (files : List Path) : Except Failure (List Batch) :=
  match config.check with
  | .error e => .error e
  | .ok () => .ok (Plan.batches config files)

theorem plan_eq_ok {config : Config} (h : config.Valid) (files : List Path) :
    plan config files = .ok (Plan.batches config files) := by
  rw [plan, Config.check_eq_ok_iff.mpr h]

end LintDispatch
