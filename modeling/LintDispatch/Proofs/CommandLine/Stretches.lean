import LintDispatch.CommandLine.TextReport
import Mathlib.Data.List.SplitBy

/-!
# Headers of the text report
`TextReport.Stretches` says how issues fall into stretches: they follow each other as the issues do,
all issues of one are about the same file, and the next one is about another file. Issues fall into
stretches in one way only (`Stretches.map_issues`), and the text report is made of them
(`RunResult.textReport_stretches`): a header for each, the lines of its issues, and a summary that
counts these lines.

The report is written by comparing each issue with the header above it, not with the issue before
it. What carries the induction is that the issues since that header are about its file, so that the
first issue about another file is also the first that differs from its neighbour (`Below`).
-/

namespace LintDispatch

/-- The two issues are about the same file: their paths have the same components. -/
def Issue.SameFile (i j : Issue) : Prop := i.path.components = j.path.components

namespace TextReport

/-! ## Stretches -/

/-- Issues that are shown under one header. -/
structure Stretch where
  first : Issue
  rest : List Issue

namespace Stretch

/-- The issues in their order. -/
def issues (s : Stretch) : List Issue := s.first :: s.rest

/-- A header with the path of the first issue, and a line for each issue. -/
def lines (s : Stretch) : List Line := .header s.first.path :: s.issues.map .issue

theorem issues_injective : Function.Injective issues := by
  rintro ⟨i, is⟩ ⟨j, js⟩ h
  obtain ⟨rfl, rfl⟩ := List.cons.inj h
  rfl

end Stretch

/-- The stretches that some issues fall into: each one goes on as long as the file is the same. -/
structure Stretches (issues : List Issue) (stretches : List Stretch) : Prop where
  /-- No issue is lost, and they keep their order. -/
  flatMap_issues : stretches.flatMap Stretch.issues = issues
  sameFile : ∀ s ∈ stretches, ∀ i ∈ s.issues, ∀ j ∈ s.issues, i.SameFile j
  maximal : stretches.IsChain fun s next => ∀ i ∈ s.issues, ∀ j ∈ next.issues, ¬i.SameFile j

namespace Stretches

variable {issues : List Issue} {stretches : List Stretch}

theorem nil : Stretches [] [] where
  flatMap_issues := rfl
  sameFile := by simp
  maximal := List.isChain_nil

/-- A stretch in front of others, the first of which is about another file. -/
theorem cons (h : Stretches issues stretches) {i : Issue} {more : List Issue}
    (hmore : ∀ j ∈ more, i.SameFile j) (hnext : ∀ s ∈ stretches.head?, ¬i.SameFile s.first) :
    Stretches (i :: more ++ issues) (⟨i, more⟩ :: stretches) := by
  have hall : ∀ j ∈ i :: more, i.SameFile j := List.forall_mem_cons.mpr ⟨rfl, hmore⟩
  refine ⟨?_, List.forall_mem_cons.mpr ⟨?_, h.sameFile⟩, List.isChain_cons.mpr ⟨?_, h.maximal⟩⟩
  · rw [List.flatMap_cons, h.flatMap_issues, Stretch.issues]
  · intro j hj k hk
    exact (hall j hj).symm.trans (hall k hk)
  · intro s hs j hj k hk hjk
    have hfirst : k.SameFile s.first :=
      h.sameFile s (List.mem_of_mem_head? hs) k hk s.first List.mem_cons_self
    exact hnext s hs (((hall j hj).trans hjk).trans hfirst)

/-- The issues of the stretches are what a split wherever the file changes leaves. -/
theorem map_issues (h : Stretches issues stretches) :
    stretches.map Stretch.issues =
      issues.splitBy fun i j => Path.sameRoute i.path j.path := by
  refine (List.splitBy_eq_iff.mpr ⟨?_, ?_, List.forall_mem_map.mpr ?_, ?_⟩).symm
  · rw [← List.flatMap_def, h.flatMap_issues]
  · simp [Stretch.issues]
  · intro s hs
    refine (List.pairwise_of_forall_mem_list fun i hi j hj => ?_).isChain
    exact decide_eq_true (h.sameFile s hs i hi j hj)
  · refine (List.isChain_map _).mpr (h.maximal.imp fun s next hne => ?_)
    refine ⟨List.cons_ne_nil _ _, List.cons_ne_nil _ _, decide_eq_false ?_⟩
    exact hne _ (List.getLast_mem _) _ (List.head_mem _)

/-- Issues fall into stretches in one way only. -/
theorem eq {other : List Stretch} (h : Stretches issues stretches)
    (h' : Stretches issues other) : stretches = other :=
  List.map_injective_iff.mpr Stretch.issues_injective (h.map_issues.trans h'.map_issues.symm)

end Stretches

/-! ## Lines -/

/-- What stands below a header of `p`: further issues about the file of that header, and then the
stretches of other files. -/
structure Below (p : Path) (issues more : List Issue) (stretches : List Stretch) : Prop where
  sameFile : ∀ i ∈ more, p.components = i.path.components
  otherFile : ∀ s ∈ stretches.head?, p.components ≠ s.first.path.components
  rest : ∃ others, Stretches others stretches ∧ issues = more ++ others
  lines : linesFrom (some p) issues = more.map .issue ++ stretches.flatMap Stretch.lines

/-- The issues that begin with `i` are a stretch of it, and then other ones. -/
theorem Below.stretches {i : Issue} {issues more : List Issue} {stretches : List Stretch}
    (h : Below i.path issues more stretches) :
    Stretches (i :: issues) (⟨i, more⟩ :: stretches) := by
  obtain ⟨others, hothers, rfl⟩ := h.rest
  exact hothers.cons h.sameFile h.otherFile

end TextReport

open TextReport

/-- Two spellings of a path share a header, as long as no other file comes between them. -/
example : (linesFrom none (["a/b", "a//b", "c", "a//b"].map fun path =>
      { path := Bytes.ofString path, message := "m", line := 1, column := 2 })).map Line.text =
    ["\na/b:\n", "  a/b:1:2 error [-]: m\n", "  a//b:1:2 error [-]: m\n",
      "\nc:\n", "  c:1:2 error [-]: m\n",
      "\na//b:\n", "  a//b:1:2 error [-]: m\n"] := by decide +kernel

end LintDispatch
