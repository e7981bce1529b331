import LintDispatch.Failure
import Mathlib.Data.List.Chain

/-!
# Wrapped failures
A failure is its root cause inside layers of wrapping (`Failure.rootCause_within_layers`), one for
each batch whose position has been added. There are three views of it: the text that is shown, the
texts of the causes below it, and the root cause. They agree (`Failure.wrapping_keeps_cause`):
wrapping only ever puts words in front of a text, so what caused a failure is always told last.
-/

namespace LintDispatch.Failure

/-! ## Layers -/

/-- The position of a batch, as a layer around a failure. -/
structure Layer where
  index : Nat
  total : Nat
  fileCount : Nat

/-- What a layer puts in front of a text. -/
def Layer.lead (l : Layer) : String := batchLead l.index l.total l.fileCount

/-- The layers around the root cause, the outermost first. -/
def layers : Failure → List Layer
  | batch index total fileCount source => ⟨index, total, fileCount⟩ :: source.layers
  | _ => []

/-- The failure inside some layers. -/
def within (f : Failure) : List Layer → Failure
  | [] => f
  | l :: ls => (f.within ls).inBatch l.index l.total l.fileCount

/-- The failure passes on an error of the host, which is a cause of its own. -/
def isHostError : Failure → Bool
  | io _ => true
  | _ => false

theorem rootCause_within_layers (f : Failure) : f.rootCause.within f.layers = f := by
  induction f with
  | batch index total fileCount source ih =>
    rw [rootCause, layers, within, ih]
    rfl
  | _ => rfl

/-! ## The root cause -/

theorem rootCause_ne_batch (f : Failure) (index total fileCount : Nat) (source : Failure) :
    f.rootCause ≠ batch index total fileCount source := by
  induction f with
  | batch _ _ _ _ ih => exact ih
  | _ => exact Failure.noConfusion

theorem rootCause_rootCause (f : Failure) : f.rootCause.rootCause = f.rootCause := by
  induction f with
  | batch _ _ _ _ ih => exact ih
  | _ => rfl

/-! ## Texts -/

/-- The first text ends with the second one, and has words in front of it. -/
def LeadsTo (text cause : String) : Prop := ∃ lead, lead ≠ "" ∧ text = lead ++ cause

theorem batchLead_ne_empty (index total fileCount : Nat) : batchLead index total fileCount ≠ "" :=
  fun h => absurd (String.append_eq_empty_iff.mp h).2 (by decide)

/-- The text of a failure is what its layers say, the outermost first, and then the text of the
root cause. -/
theorem message_eq (f : Failure) :
    f.message = String.join (f.layers.map Layer.lead) ++ f.rootCause.message := by
  induction f with
  | batch index total fileCount source ih =>
    have hjoin : String.join ((batch index total fileCount source).layers.map Layer.lead) =
        batchLead index total fileCount ++ String.join (source.layers.map Layer.lead) :=
      String.join_cons
    rw [message_batch, hjoin, String.append_assoc, rootCause, ← ih]
  | _ => exact String.empty_append.symm

/-- Each text leads to the one of the next cause. -/
theorem isChain_sources (f : Failure) : (f.message :: f.sources).IsChain LeadsTo := by
  induction f with
  | batch index total fileCount source ih =>
    exact List.isChain_cons_cons.mpr
      ⟨⟨_, batchLead_ne_empty index total fileCount, message_batch ..⟩, ih⟩
  | io error =>
    exact List.isChain_cons_cons.mpr
      ⟨⟨_, by decide, message_io error⟩, List.isChain_singleton _⟩
  | _ => exact List.isChain_singleton _

/-- There is a cause below each layer, and one more below an error of the host. -/
theorem length_sources (f : Failure) :
    f.sources.length = f.layers.length + if f.rootCause.isHostError then 1 else 0 := by
  induction f with
  | batch index total fileCount source ih =>
    rw [sources, layers, List.length_cons, List.length_cons, ih, rootCause]
    omega
  | _ => rfl

/-! ## The views agree -/

/-- What is known of the cause of a failure, however often it has been wrapped. -/
structure KeepsCause (f : Failure) : Prop where
  /-- The layers hold nothing but the root cause. -/
  layered : f.rootCause.within f.layers = f
  /-- The root cause is not wrapped. -/
  bare : ∀ index total fileCount source, f.rootCause ≠ batch index total fileCount source
  innermost : f.rootCause.rootCause = f.rootCause
  /-- One more layer makes no difference to it. -/
  wrapped : ∀ index total fileCount, (f.inBatch index total fileCount).rootCause = f.rootCause
  /-- The text ends with that of the root cause, and all in front of it is said by the layers. -/
  told : f.message = String.join (f.layers.map Layer.lead) ++ f.rootCause.message
  /-- The text of each cause is the end of the text before it, and not the whole of it. -/
  chained : (f.message :: f.sources).IsChain LeadsTo
  /-- Each layer has a cause below it, and so has an error of the host. -/
  counted : f.sources.length = f.layers.length + if f.rootCause.isHostError then 1 else 0

/-- Wrapping a failure keeps its cause in every view of it. -/
theorem wrapping_keeps_cause (f : Failure) : KeepsCause f where
  layered := f.rootCause_within_layers
  bare := f.rootCause_ne_batch
  innermost := f.rootCause_rootCause
  wrapped _ _ _ := rfl
  told := f.message_eq
  chained := f.isChain_sources
  counted := f.length_sources

example : (((io .missing).inBatch 0 2 1).inBatch 1 3 2).sources =
    ["Batch 1 of 2 (1 file(s)) failed: I/O error: No such file or directory (os error 2)",
      "I/O error: No such file or directory (os error 2)",
      "No such file or directory (os error 2)"] := by decide +kernel

end LintDispatch.Failure
