import LintDispatch.Command
import LintDispatch.Proofs.Text.Broken
import Mathlib.Algebra.Ring.Nat

/-!
# The line of a command
The length of a command is counted on the bytes of its arguments, but its line is a text. The two
are the same for arguments that are texts. Any other argument is shown with a character of three
bytes for each of its broken stretches, and these have three bytes at most: so the line may be
longer than counted, by the shortfall of the broken stretches, and it is never shorter
(`Command.utf8ByteSize_line`).
-/

namespace LintDispatch

/-- Between neighbours the separator comes once. -/
theorem utf8ByteSize_intercalate (sep : String) :
    ∀ ss : List String, (sep.intercalate ss).utf8ByteSize =
      (ss.map String.utf8ByteSize).sum + sep.utf8ByteSize * (ss.length - 1)
  | [] => rfl
  | [s] => by simp
  | s :: t :: ss => by
    rw [String.intercalate_cons_cons, String.utf8ByteSize_append, String.utf8ByteSize_append,
      utf8ByteSize_intercalate sep (t :: ss)]
    simp only [List.map_cons, List.sum_cons, List.length_cons, Nat.add_sub_cancel, Nat.mul_succ]
    omega

namespace Command

open Utf8 (brokenStretches shortfall)

/-- The texts of some arguments are longer by the shortfall of all their broken stretches. -/
theorem sum_utf8ByteSize_lossy (args : List Bytes) :
    (((args.map Utf8.lossy).map String.utf8ByteSize).sum : Int) =
      args.flatten.length + shortfall (args.flatMap brokenStretches) := by
  induction args with
  | nil => rfl
  | cons arg args ih =>
    have harg := Utf8.utf8ByteSize_lossy arg
    simp only [List.map_cons, List.sum_cons, List.flatten_cons, List.length_append,
      List.flatMap_cons, Utf8.shortfall_append, Int.natCast_add]
    omega

theorem shortfall_flatMap_nonneg (args : List Bytes) :
    0 ≤ shortfall (args.flatMap brokenStretches) := by
  induction args with
  | nil => exact Int.le_refl 0
  | cons arg args ih =>
    have harg := Utf8.shortfall_brokenStretches_nonneg arg
    rw [List.flatMap_cons, Utf8.shortfall_append]
    omega

theorem brokenStretches_ofString (s : String) : brokenStretches (Bytes.ofString s) = [] := by
  have hpieces : Utf8.pieces (Bytes.ofString s) = s.toList.map .char :=
    Utf8.pieces_flatMap_utf8EncodeChar s.toList
  rw [brokenStretches, hpieces, List.filterMap_map]
  simp [Function.comp_def, Utf8.Piece.broken?]

theorem utf8ByteSize_line_eq (c : Command) : (c.line.utf8ByteSize : Int) =
    c.renderedLength + shortfall (c.argv.flatMap brokenStretches) := by
  have hsum := sum_utf8ByteSize_lossy c.argv
  rw [line, utf8ByteSize_intercalate, List.length_map, renderedLength, lengthOf]
  have hblank : " ".utf8ByteSize = 1 := rfl
  rw [hblank, Nat.one_mul]
  omega

/-- The line of a command is longer than its rendered length by what its maximal ill-formed
stretches are short of three bytes each; the pieces that they are among are the only ones that each
argument can be cut into. So the line is never shorter, and it is as long as counted if all
arguments are texts. -/
theorem utf8ByteSize_line (c : Command) :
    (∀ arg ps, Utf8.Cuts arg ps ↔ ps = Utf8.pieces arg) ∧
    (c.line.utf8ByteSize : Int) - c.renderedLength =
      ((c.argv.flatMap brokenStretches).map fun x => 3 - (x.length : Int)).sum ∧
    c.renderedLength ≤ c.line.utf8ByteSize ∧
    ((∀ arg ∈ c.argv, ∃ s, arg = Bytes.ofString s) → c.line.utf8ByteSize = c.renderedLength) := by
  have heq := c.utf8ByteSize_line_eq
  refine ⟨fun arg ps => Utf8.cuts_iff, ?_, ?_, fun htexts => ?_⟩
  · have hsum : (c.line.utf8ByteSize : Int) - c.renderedLength =
        shortfall (c.argv.flatMap brokenStretches) := by omega
    exact hsum
  · have := shortfall_flatMap_nonneg c.argv
    omega
  · have hnone : c.argv.flatMap brokenStretches = [] := by
      rw [List.flatMap_eq_nil_iff]
      intro arg harg
      obtain ⟨s, rfl⟩ := htexts arg harg
      exact brokenStretches_ofString s
    rw [hnone, Utf8.shortfall_nil] at heq
    omega

/-- A command whose second argument has two broken stretches, of one byte and of two. -/
def garbled : Command where
  argv := [[0x61], [0xFF, 0x62, 0xE2, 0x82], [0xC3, 0xA9]]
  output := default

/-- Its line is three bytes longer than counted. Without that argument the two are the same. -/
theorem utf8ByteSize_line_garbled :
    garbled.argv.flatMap brokenStretches = [[0xFF], [0xE2, 0x82]] ∧
    (garbled.line.utf8ByteSize : Int) - garbled.renderedLength = 3 ∧
    (∀ arg ∈ (Command.mk [[0x61], [0xC3, 0xA9]] default).argv, ∃ s, arg = Bytes.ofString s) ∧
    (Command.mk [[0x61], [0xC3, 0xA9]] default).line.utf8ByteSize =
      (Command.mk [[0x61], [0xC3, 0xA9]] default).renderedLength := by
  have hbroken : garbled.argv.flatMap brokenStretches = [[0xFF], [0xE2, 0x82]] := by
    decide +kernel
  have htexts : ∀ arg ∈ (Command.mk [[0x61], [0xC3, 0xA9]] default).argv,
      ∃ s, arg = Bytes.ofString s := by
    simp only [List.forall_mem_cons]
    exact ⟨⟨"a", by decide⟩, ⟨"é", by decide⟩, by simp⟩
  obtain ⟨-, hlonger, -, -⟩ := garbled.utf8ByteSize_line
  rw [hbroken] at hlonger
  exact ⟨hbroken, hlonger, htexts,
    (Command.mk [[0x61], [0xC3, 0xA9]] default).utf8ByteSize_line.2.2.2 htexts⟩

end Command

end LintDispatch
