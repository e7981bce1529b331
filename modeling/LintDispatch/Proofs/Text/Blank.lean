import LintDispatch.Path
import LintDispatch.Proofs.Text.Utf8

/-!
# Blank paths
A text is blank if its characters are white, and a path is blank if it shows as a blank text. A
broken stretch of bytes shows as U+FFFD, which is not white, so the blank paths are the blank texts
in UTF-8 (`Bytes.isBlank_iff`).

A path with a slash in it is not blank, whatever else it holds: the byte of the slash is no part of
a longer character. So a directory in front of a path hides that the path is blank
(`Path.isBlank_join`).
-/

namespace LintDispatch

namespace Bytes

@[simp] theorem isBlank_ofString (s : String) : (ofString s).isBlank = Text.isBlank s := by
  rw [isBlank, Utf8.lossy_ofString]

/-- Bytes are blank if nothing is left of their text without the white space at its ends. -/
theorem isBlank_iff_trim_eq {bs : Bytes} :
    bs.isBlank = true ↔ Text.trim (Utf8.lossy bs) = "" := by
  rw [isBlank, Text.isBlank, ← Text.trimChars_eq_nil_iff, Text.trim, String.ofList_eq_empty_iff]

/-- Blank bytes are well-formed. -/
theorem broken_notMem_pieces {bs : Bytes} (h : bs.isBlank = true) (x : Bytes) :
    .broken x ∉ Utf8.pieces bs := by
  intro hx
  rw [isBlank, Text.isBlank, Utf8.lossy, String.toList_ofList] at h
  have hwhite : Text.isWhite '\uFFFD' = true :=
    List.all_eq_true.mp h _ (List.mem_map_of_mem hx)
  exact absurd hwhite (by decide)

theorem isBlank_iff {bs : Bytes} :
    bs.isBlank = true ↔ ∃ s, bs = ofString s ∧ Text.isBlank s = true := by
  constructor
  · intro h
    obtain ⟨cs, hcs⟩ := Utf8.exists_chars bs (broken_notMem_pieces h)
    have hs : bs = ofString (String.ofList cs) := by
      rw [hcs, ofString, String.toList_ofList]
    exact ⟨_, hs, by rwa [hs, isBlank_ofString] at h⟩
  · rintro ⟨s, rfl, hs⟩
    rw [isBlank_ofString, hs]

end Bytes

namespace Path

/-- A path with a slash is not blank. -/
theorem isBlank_of_slash_mem {p : Path} (h : slash ∈ p) : p.isBlank = false := by
  by_contra hblank
  obtain ⟨s, rfl, hs⟩ := Bytes.isBlank_iff.mp (by simpa using hblank)
  obtain ⟨c, hc, hmem⟩ := List.mem_flatMap.mp h
  obtain rfl := Utf8.eq_of_mem_utf8EncodeChar (by decide) hmem
  have hwhite : Text.isWhite '/' = true := List.all_eq_true.mp hs _ hc
  exact absurd hwhite (by decide)

theorem slash_mem_of_isAbsolute {p : Path} (h : p.isAbsolute = true) : slash ∈ p :=
  List.mem_of_mem_head? (beq_iff_eq.mp h)

theorem slash_mem_join {base : Path} (h : base.isEmpty = false) (p : Path) :
    slash ∈ join base p := by
  rw [join, h]
  split
  · exact slash_mem_of_isAbsolute ‹_›
  split
  · contradiction
  split
  case isTrue hlast =>
    exact List.mem_append_left _ (List.mem_of_getLast? (beq_iff_eq.mp hlast))
  case isFalse => simp

/-- Joined to a directory, a path is blank only if the directory is empty. -/
theorem isBlank_join (base p : Path) : (join base p).isBlank = (base.isEmpty && p.isBlank) := by
  cases h : base.isEmpty with
  | true => rw [List.isEmpty_iff.mp h, join_nil_left, Bool.true_and]
  | false => rw [isBlank_of_slash_mem (slash_mem_join h p), Bool.false_and]

end Path

end LintDispatch
