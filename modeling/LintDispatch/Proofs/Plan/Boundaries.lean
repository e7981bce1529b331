import LintDispatch.Proofs.Plan.Greedy

/-!
# The boundaries of batches
A cut never looks ahead of the file that it has come to, and at a boundary nothing is left of what
came before. So a plan for more files begins as the plan for the first of them does, up to the batch
that was being filled when they ended (`batches_append`); and the files from some boundary on are
planned as they were in the whole, but for the counting (`batches_drop`).

The first of these is an induction over the cut: it is in the same state after the first files
whether or not others follow (`cut_append`). The second one needs no look at the cut, since the
groups from a boundary on are tight, and no other groups of these files are.
-/

namespace LintDispatch.Plan

variable {config : Config}

/-! ## More files -/

/-- A cut of more files goes on from the last group of the cut of the first ones. -/
theorem cut_append (limit start : Nat) (more : List Path) :
    ∀ (files current : List Path) (used : Nat) {kept : List (List Path)} {last : List Path},
      cut limit start current used files = kept ++ [last] →
      ∃ used', cut limit start current used (files ++ more) =
        kept ++ cut limit start last used' more
  | [], [], used, kept, last, h => by simp [cut] at h
  | [], f :: current, used, kept, last, h => by
    have hlast : [] ++ [f :: current] = kept ++ [last] := h
    obtain ⟨rfl, hlast⟩ := List.append_inj' hlast rfl
    obtain rfl := List.singleton_inj.mp hlast
    exact ⟨used, rfl⟩
  | file :: files, current, used, kept, last, h => by
    rw [cut] at h
    rw [List.cons_append, cut]
    split at h
    case isTrue hbig =>
      rw [if_pos hbig]
      obtain ⟨others, groups, hc⟩ := cut_eq_cons limit start files [file] (start + 1 + file.length)
        (by simp)
      rcases kept with _ | ⟨g, kept⟩
      · simp [hc] at h
      · obtain ⟨hfirst, hrest⟩ := List.cons.inj h
        obtain ⟨used', heq⟩ := cut_append limit start more files [file] _ hrest
        exact ⟨used', by rw [heq, hfirst, List.cons_append]⟩
    case isFalse hsmall =>
      rw [if_neg hsmall]
      exact cut_append limit start more files _ _ h

theorem flatten_groups (config : Config) (files : List Path) :
    (groups config files).flatten = files :=
  flatten_cut _ _ files [] _

theorem tight_groups (config : Config) (files : List Path) : Tight config (groups config files) :=
  tight_cut files [] (Or.inl rfl)

theorem groups_append (config : Config) {files : List Path} (hne : files ≠ [])
    (more : List Path) :
    ∃ kept last added later, groups config files = kept ++ [last] ∧
      groups config (files ++ more) = kept ++ (last ++ added) :: later := by
  rcases List.eq_nil_or_concat' (groups config files) with hnil | ⟨kept, last, hgroups⟩
  · exact absurd (by rw [← flatten_groups config files, hnil]; rfl) hne
  have hlast : last ≠ [] := (tight_groups config files).nonempty last (by simp [hgroups])
  obtain ⟨used, happend⟩ := cut_append _ _ more files [] _ hgroups
  obtain ⟨added, later, hcut⟩ := cut_eq_cons config.maxCommandLength.toNat
    (Command.fixedLength config) more last used hlast
  exact ⟨kept, last, added, later, hgroups, by rw [groups, happend, hcut]⟩

/-- With more files, only the last batch of a plan can grow, and all that is new comes after it. -/
theorem batches_append (config : Config) {files : List Path} (hne : files ≠ [])
    (more : List Path) :
    ∃ kept last added later, batches config files = kept ++ [last] ∧
      batches config (files ++ more) = kept ++ ⟨last.index, last.files ++ added⟩ :: later := by
  obtain ⟨kept, last, added, later, hgroups, happend⟩ := groups_append config hne more
  refine ⟨kept.mapIdx Batch.mk, ⟨kept.length, last⟩, added,
    later.mapIdx fun i => Batch.mk (i + 1 + kept.length), ?_, ?_⟩
  · rw [batches, hgroups, List.mapIdx_append]
    simp
  · rw [batches, happend, List.mapIdx_append]
    simp [List.mapIdx_cons]

/-! ## The files from a boundary on -/

/-- The batches, counted from zero. -/
def renumbered (bs : List Batch) : List Batch := (bs.map Batch.files).mapIdx Batch.mk

theorem map_files_renumbered (bs : List Batch) :
    (renumbered bs).map Batch.files = bs.map Batch.files := by
  apply List.ext_getElem <;> simp [renumbered]

@[simp] theorem length_renumbered (bs : List Batch) : (renumbered bs).length = bs.length := by
  simp [renumbered]

theorem Tight.drop : ∀ {groups : List (List Path)}, Tight config groups → ∀ k : Nat,
    Tight config (groups.drop k)
  | _, h, 0 => h
  | [], h, _ + 1 => h
  | _ :: _, h, k + 1 => h.tail.drop k

/-- The groups from a boundary on are those of their own files. -/
theorem groups_drop (config : Config) (files : List Path) (k : Nat) :
    groups config ((groups config files).drop k).flatten = (groups config files).drop k :=
  (tight_groups config _).eq_of_flatten_eq ((tight_groups config files).drop k)
    (flatten_groups config _)

/-- The batches from a boundary on are the plan for their own files. -/
theorem batches_drop (config : Config) (files : List Path) (k : Nat) :
    batches config (((batches config files).drop k).flatMap Batch.files) =
      renumbered ((batches config files).drop k) := by
  rw [renumbered, List.flatMap_def, List.map_drop, map_files_batches, batches, groups_drop]

end LintDispatch.Plan
