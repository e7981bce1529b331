import LintDispatch.Plan
import Mathlib.Data.List.Chain

/-!
# Greedy plans
`Plan.IsGreedy` says what a plan is without saying how it is found: the batches hold the files in
order, none of them is empty, each of them fits on a line or is a single file, and none of them
could have taken the first file of the next one. `plan_is_unique_greedy`: the plan of a usable
configuration is such a sequence, and no other sequence is one.

The indices play no part in that, so the argument is about groups of files (`Plan.Tight`). A cut
keeps two facts: the group being filled fits, and it begins the first group that the rest of the cut
gives (`cut_eq_cons`), which is what the next file is held against. Of two tight sequences of
groups over the same files neither can begin with a shorter group, since its first group could have
taken the next file.
-/

namespace LintDispatch.Plan

variable {config : Config}

/-- The group fits on a line, or it is a single file. -/
def Fits (config : Config) (group : List Path) : Prop :=
  renderedLength config group ≤ config.maxCommandLength.toNat ∨ ∃ file, group = [file]

/-- The group has no room for the first file of the next one. -/
def Full (config : Config) (group next : List Path) : Prop :=
  ∀ file ∈ next.head?, config.maxCommandLength.toNat < renderedLength config (group ++ [file])

/-- The batches are a plan for the files. -/
structure IsGreedy (config : Config) (files : List Path) (batches : List Batch) : Prop where
  /-- Every file stands in one batch, in its order. -/
  files : batches.flatMap Batch.files = files
  /-- Batches are counted from zero. -/
  index : ∀ (i : Nat) (h : i < batches.length), batches[i].index = i
  nonempty : ∀ b ∈ batches, b.files ≠ []
  fits : ∀ b ∈ batches, Fits config b.files
  full : batches.IsChain fun b next => Full config b.files next.files

/-- Groups that a greedy cut may leave. -/
structure Tight (config : Config) (groups : List (List Path)) : Prop where
  nonempty : ∀ g ∈ groups, g ≠ []
  fits : ∀ g ∈ groups, Fits config g
  full : groups.IsChain (Full config)

theorem renderedLength_le_append (config : Config) (files more : List Path) :
    renderedLength config files ≤ renderedLength config (files ++ more) := by
  rw [renderedLength_append, Nat.add_assoc]
  exact Nat.le_add_right _ _

theorem renderedLength_snoc (config : Config) (files : List Path) (file : Path) :
    renderedLength config (files ++ [file]) = renderedLength config files + 1 + file.length := by
  rw [renderedLength_append, List.flatten_singleton, List.length_singleton]
  omega

/-! ## A cut is tight -/

/-- The files of a cut are those it began with and those it was given. -/
theorem flatten_cut (limit start : Nat) :
    ∀ (files current : List Path) (used : Nat),
      (cut limit start current used files).flatten = current ++ files
  | [], current, used => by cases current <;> simp [cut]
  | file :: files, current, used => by
    rw [cut]
    split
    · rw [List.flatten_cons, flatten_cut limit start files]
      simp
    · rw [flatten_cut limit start files]
      simp

/-- A group that has been begun stays at the front of the cut. -/
theorem cut_eq_cons (limit start : Nat) :
    ∀ (files current : List Path) (used : Nat), current ≠ [] →
      ∃ more groups, cut limit start current used files = (current ++ more) :: groups
  | [], current, used, h => ⟨[], [], by simp [cut, h]⟩
  | file :: files, current, used, h => by
    rw [cut]
    split
    · exact ⟨[], _, by rw [List.append_nil]⟩
    · obtain ⟨more, groups, hc⟩ :=
        cut_eq_cons limit start files (current ++ [file]) (used + 1 + file.length) (by simp)
      exact ⟨file :: more, groups, by rw [hc, List.append_assoc]; rfl⟩

theorem Tight.cons {group : List Path} {groups : List (List Path)} (h : Tight config groups)
    (hne : group ≠ []) (hfit : Fits config group)
    (hfull : ∀ next ∈ groups.head?, Full config group next) : Tight config (group :: groups) where
  nonempty := List.forall_mem_cons.mpr ⟨hne, h.nonempty⟩
  fits := List.forall_mem_cons.mpr ⟨hfit, h.fits⟩
  full := List.isChain_cons.mpr ⟨hfull, h.full⟩

theorem tight_cut :
    ∀ files current : List Path, current = [] ∨ Fits config current →
      Tight config (cut config.maxCommandLength.toNat (Command.fixedLength config) current
        (renderedLength config current) files)
  | [], current, h => by
    rcases current with _ | ⟨file, current⟩
    · exact ⟨by simp [cut], by simp [cut], by simp [cut]⟩
    · simpa [cut] using Tight.cons ⟨by simp, by simp, by simp⟩ (List.cons_ne_nil file current)
        (h.resolve_left (by simp)) (by simp)
  | file :: files, current, h => by
    have hlen := renderedLength_snoc config current file
    have hone := renderedLength_snoc config [] file
    rw [renderedLength_nil, List.nil_append] at hone
    rw [cut]
    split
    case isTrue hbig =>
      -- the file opens a group of its own, which stays at the front of what follows
      obtain ⟨hbig, hne⟩ := hbig
      have hne : current ≠ [] := by simpa using hne
      rw [← hone]
      refine (tight_cut files [file] (Or.inr (Or.inr ⟨file, rfl⟩))).cons hne
        (h.resolve_left hne) ?_
      obtain ⟨more, groups, hc⟩ := cut_eq_cons config.maxCommandLength.toNat
        (Command.fixedLength config) files [file] (renderedLength config [file]) (by simp)
      rw [hc]
      rintro next hnext f hf
      obtain rfl : [file] ++ more = next := by simpa using hnext
      obtain rfl : file = f := by simpa using hf
      rw [hlen]
      exact hbig
    case isFalse hsmall =>
      -- the file joins the group, which is then within the limit or had been empty
      rw [← hlen]
      refine tight_cut files (current ++ [file]) (Or.inr ?_)
      by_cases hne : current = []
      · exact Or.inr ⟨file, by rw [hne, List.nil_append]⟩
      · refine Or.inl ?_
        have : ¬config.maxCommandLength.toNat < renderedLength config current + 1 + file.length :=
          fun hlt => hsmall ⟨hlt, by simpa using hne⟩
        omega

/-! ## Only one sequence of groups is tight -/

/-- The first of tight groups cannot be prolonged. -/
theorem Tight.eq_nil_of_fits {group more rest : List Path} {groups : List (List Path)}
    (h : Tight config (group :: groups)) (hrest : groups.flatten = more ++ rest)
    (hfit : Fits config (group ++ more)) : more = [] := by
  rcases more with _ | ⟨file, more⟩
  · rfl
  exfalso
  rcases groups with _ | ⟨next, groups⟩
  · simp at hrest
  have hnext : next.head? = some file := by
    rcases next with _ | ⟨f, next⟩
    · exact absurd rfl (h.nonempty [] (by simp))
    · simp only [List.flatten_cons, List.cons_append, List.cons.injEq] at hrest
      rw [hrest.1, List.head?_cons]
  have hlt := (List.isChain_cons_cons.mp h.full).1 file hnext
  have hle := renderedLength_le_append config (group ++ [file]) more
  rw [List.append_assoc, List.singleton_append] at hle
  rcases hfit with hfit | ⟨f, hf⟩
  · omega
  · have hne := h.nonempty group (by simp)
    have := congrArg List.length hf
    have := List.length_pos_of_ne_nil hne
    simp only [List.length_append, List.length_cons, List.length_nil] at *
    omega

theorem Tight.tail {group : List Path} {groups : List (List Path)}
    (h : Tight config (group :: groups)) : Tight config groups where
  nonempty g hg := h.nonempty g (List.mem_cons_of_mem _ hg)
  fits g hg := h.fits g (List.mem_cons_of_mem _ hg)
  full := (List.isChain_cons.mp h.full).2

theorem Tight.eq_of_flatten_eq :
    ∀ {groups groups' : List (List Path)}, Tight config groups → Tight config groups' →
      groups.flatten = groups'.flatten → groups = groups'
  | [], [], _, _, _ => rfl
  | [], g :: gs, _, h', heq => absurd (by simpa using heq.symm : _ ∧ _).1 (h'.nonempty g (by simp))
  | g :: gs, [], h, _, heq => absurd (by simpa using heq : _ ∧ _).1 (h.nonempty g (by simp))
  | g :: gs, g' :: gs', h, h', heq => by
    rw [List.flatten_cons, List.flatten_cons] at heq
    have hg : g = g' := by
      rcases List.append_eq_append_iff.mp heq with ⟨more, hg, hrest⟩ | ⟨more, hg, hrest⟩
      · have := h.eq_nil_of_fits hrest (hg ▸ h'.fits g' (by simp))
        rw [hg, this, List.append_nil]
      · have := h'.eq_nil_of_fits hrest (hg ▸ h.fits g (by simp))
        rw [hg, this, List.append_nil]
    subst hg
    rw [h.tail.eq_of_flatten_eq h'.tail (List.append_cancel_left heq)]

/-! ## Batches -/

theorem IsGreedy.tight {files : List Path} {batches : List Batch}
    (h : IsGreedy config files batches) : Tight config (batches.map Batch.files) where
  nonempty := List.forall_mem_map.mpr h.nonempty
  fits := List.forall_mem_map.mpr h.fits
  full := (List.isChain_map _).mpr h.full

theorem map_files_batches (config : Config) (files : List Path) :
    (batches config files).map Batch.files = groups config files := by
  apply List.ext_getElem <;> simp [batches]

theorem isGreedy_batches (config : Config) (files : List Path) :
    IsGreedy config files (batches config files) := by
  have ht : Tight config ((batches config files).map Batch.files) := by
    rw [map_files_batches]
    exact tight_cut files [] (Or.inl rfl)
  exact {
    files := by rw [List.flatMap_def, map_files_batches, groups, flatten_cut, List.nil_append]
    index := fun i h => by simp [batches]
    nonempty := fun b hb => ht.nonempty _ (List.mem_map_of_mem hb)
    fits := List.forall_mem_map.mp ht.fits
    full := (List.isChain_map _).mp ht.full }

theorem isGreedy_of_plan_eq_ok {files : List Path} {bs : List Batch}
    (h : plan config files = .ok bs) : IsGreedy config files bs := by
  unfold plan at h
  cases hc : config.check with
  | error e => simp [hc] at h
  | ok u =>
    rw [hc] at h
    obtain rfl := Except.ok.inj h
    exact isGreedy_batches config files

theorem IsGreedy.eq {files : List Path} {bs cs : List Batch} (h : IsGreedy config files bs)
    (h' : IsGreedy config files cs) : bs = cs := by
  have hfiles : bs.map Batch.files = cs.map Batch.files := by
    refine h.tight.eq_of_flatten_eq h'.tight ?_
    rw [← List.flatMap_def, ← List.flatMap_def, h.files, h'.files]
  have hlen : bs.length = cs.length := by simpa using congrArg List.length hfiles
  refine List.ext_getElem hlen fun i hb hc => ?_
  have hi : bs[i].files = cs[i].files := by
    have := List.getElem_of_eq hfiles (by simpa using hb)
    simpa using this
  calc bs[i] = ⟨bs[i].index, bs[i].files⟩ := rfl
    _ = ⟨cs[i].index, cs[i].files⟩ := by rw [h.index i hb, h'.index i hc, hi]
    _ = cs[i] := rfl

/-- A usable configuration has a plan for any files, and the plan is the only sequence of batches
that is greedy for them. -/
theorem plan_is_unique_greedy (h : config.Valid) (files : List Path) :
    ∃ batches, plan config files = .ok batches ∧
      ∀ candidate, IsGreedy config files candidate ↔ candidate = batches := by
  refine ⟨batches config files, plan_eq_ok h files, fun candidate => ⟨fun hc => ?_, ?_⟩⟩
  · exact hc.eq (isGreedy_batches config files)
  · rintro rfl
    exact isGreedy_batches config files

/-- A configuration whose lines have room for two files of one letter. -/
def narrow : Config where
  linter := [101]
  configFile := [99]
  launcher := none
  maxCommandLength := 300

/-- Three files of one letter, planned with room for two. -/
theorem plan_narrow_is_unique_greedy : narrow.Valid ∧
    ∃ batches, plan narrow [[97], [98], [99]] = .ok batches ∧
      ∀ candidate, IsGreedy narrow [[97], [98], [99]] candidate ↔ candidate = batches :=
  ⟨by decide, plan_is_unique_greedy (by decide) _⟩

example : batches narrow [[97], [98], [99]] = [⟨0, [[97], [98]]⟩, ⟨1, [[99]]⟩] := by decide

end LintDispatch.Plan
