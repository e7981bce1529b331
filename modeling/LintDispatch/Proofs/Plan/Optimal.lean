import LintDispatch.Proofs.Plan.Greedy
import Mathlib.Data.List.Flatten
import Mathlib.Order.Bounds.Basic

/-!
# The fewest batches
Any cut of the files into groups that are not empty, and each of which fits on a line or is a single
file, might have been a plan (`Plan.IsCut`). `plan_isLeast`: no cut has fewer groups than the plan
has batches. So a higher limit never needs more batches, and some of the files never need more than
all of them.

The plan stays ahead of every other cut. Its first group could not have been longer, so it ends at
or after the end of the first part of the cut, and less is left of the files. This does not need the
files of the cut to be those of the plan: it is enough that the plan's files are some of them, in
their order (`Tight.length_le_of_sublist`), and the cut may be the plan of another limit.
-/

namespace LintDispatch.Plan

variable {config : Config}

/-- The groups cut the files as batches might. -/
structure IsCut (config : Config) (files : List Path) (groups : List (List Path)) : Prop where
  /-- Every file stands in one group, in its order. -/
  files : groups.flatten = files
  nonempty : ∀ g ∈ groups, g ≠ []
  fits : ∀ g ∈ groups, Fits config g

theorem renderedLength_le_of_sublist {part files : List Path} (h : part.Sublist files) :
    renderedLength config part ≤ renderedLength config files := by
  have hbytes := h.flatten.length_le
  have hcount := h.length_le
  unfold renderedLength
  omega

/-- A group still fits if files are left out of it. -/
theorem Fits.of_sublist {part group : List Path} (h : Fits config group)
    (hsub : part.Sublist group) (hne : part ≠ []) : Fits config part := by
  rcases h with hlen | ⟨file, rfl⟩
  · exact Or.inl ((renderedLength_le_of_sublist hsub).trans hlen)
  · rcases List.sublist_singleton.mp hsub with hpart | hpart
    · exact absurd hpart hne
    · exact Or.inr ⟨file, hpart⟩

/-- A group that fits on a line fits on a longer one. -/
theorem Fits.of_limit_le {limit : UInt64} {group : List Path} (h : Fits config group)
    (hlimit : config.maxCommandLength ≤ limit) :
    Fits { config with maxCommandLength := limit } group :=
  h.imp_left fun hlen => hlen.trans (UInt64.le_iff_toNat_le.mp hlimit)

/-- Tight groups are no more than the parts of any other cut, of the same files or of more. -/
theorem Tight.length_le_of_sublist :
    ∀ {groups parts : List (List Path)}, Tight config groups → (∀ p ∈ parts, Fits config p) →
      groups.flatten.Sublist parts.flatten → groups.length ≤ parts.length
  | [], _, _, _, _ => Nat.zero_le _
  | g :: _, [], h, _, hsub => by
    have hg : g = [] := (by simpa using hsub : _ ∧ _).1
    exact absurd hg (h.nonempty g (by simp))
  | g :: gs, p :: ps, h, hfits, hsub => by
    obtain ⟨hp, hps⟩ := List.forall_mem_cons.mp hfits
    rw [List.flatten_cons, List.flatten_cons] at hsub
    obtain ⟨front, rest, heq, hfront, hrest⟩ := List.sublist_append_iff.mp hsub
    -- the first group holds all files that are in the first part
    have hgs : gs.flatten.Sublist ps.flatten := by
      rcases List.append_eq_append_iff.mp heq with ⟨more, hg, hmore⟩ | ⟨more, hg, hmore⟩
      · have hne : g ++ more ≠ [] := List.append_ne_nil_of_left_ne_nil (h.nonempty g (by simp)) more
        have hnil : more = [] := h.eq_nil_of_fits hmore (hp.of_sublist (hg ▸ hfront) hne)
        rw [hmore, hnil, List.nil_append]
        exact hrest
      · exact (List.sublist_append_right more gs.flatten).trans (hmore ▸ hrest)
    exact Nat.succ_le_succ (h.tail.length_le_of_sublist hps hgs)

/-! ## Plans -/

theorem isCut_batches (config : Config) (files : List Path) :
    IsCut config files ((batches config files).map Batch.files) where
  files := by rw [← List.flatMap_def, (isGreedy_batches config files).files]
  nonempty := (isGreedy_batches config files).tight.nonempty
  fits := (isGreedy_batches config files).tight.fits

/-- A plan has no more batches than a cut of its files, or of more files, has groups. -/
theorem length_batches_le {files : List Path} {groups : List (List Path)}
    (hfits : ∀ g ∈ groups, Fits config g) (hsub : files.Sublist groups.flatten) :
    (batches config files).length ≤ groups.length := by
  have hflat := (isCut_batches config files).files
  have hle := (isGreedy_batches config files).tight.length_le_of_sublist hfits
    (by rw [hflat]; exact hsub)
  rwa [List.length_map] at hle

theorem valid_of_limit_le {limit : UInt64} (h : config.Valid)
    (hlimit : config.maxCommandLength ≤ limit) :
    Config.Valid { config with maxCommandLength := limit } := by
  obtain ⟨hlinter, hfile, htime, hlength, hformat⟩ := config.valid_iff.mp h
  refine (Config.valid_iff _).mpr ⟨hlinter, hfile, htime, fun hzero => hlength ?_, hformat⟩
  exact UInt64.le_antisymm (hzero ▸ hlimit) (UInt64.zero_le)

/-- The plan of a usable configuration has the fewest batches that any cut of the files has. A
higher limit needs no more of them, and neither do some of the files alone. -/
theorem plan_isLeast (h : config.Valid) (files : List Path) :
    ∃ batches, plan config files = .ok batches ∧
      IsLeast {n | ∃ groups, IsCut config files groups ∧ groups.length = n} batches.length ∧
      (∀ limit, config.maxCommandLength ≤ limit → ∃ wider,
        plan { config with maxCommandLength := limit } files = .ok wider ∧
          wider.length ≤ batches.length) ∧
      ∀ part, part.Sublist files → ∃ fewer,
        plan config part = .ok fewer ∧ fewer.length ≤ batches.length := by
  have hcut := isCut_batches config files
  have hall : files.Sublist ((batches config files).map Batch.files).flatten := by rw [hcut.files]
  have hcount : ((batches config files).map Batch.files).length = (batches config files).length :=
    List.length_map _
  refine ⟨batches config files, plan_eq_ok h files, ⟨⟨_, hcut, hcount⟩, ?_⟩, ?_, ?_⟩
  · rintro n ⟨groups, hgroups, rfl⟩
    exact length_batches_le hgroups.fits (by rw [hgroups.files])
  · intro limit hlimit
    refine ⟨_, plan_eq_ok (valid_of_limit_le h hlimit) files, hcount ▸ length_batches_le ?_ hall⟩
    exact fun g hg => (hcut.fits g hg).of_limit_le hlimit
  · intro part hpart
    exact ⟨_, plan_eq_ok h part, hcount ▸ length_batches_le hcut.fits (hpart.trans hall)⟩

/-- Three files of one letter, with a file among them that is too long by itself. -/
def crowded : List Path := [[97], List.replicate 300 120, [98], [99]]

/-- With room for two files of one letter, the long file makes three batches necessary. -/
theorem plan_narrow_isLeast :
    narrow.Valid ∧ ∃ batches, plan narrow crowded = .ok batches ∧ batches.length = 3 ∧
      IsLeast {n | ∃ groups, IsCut narrow crowded groups ∧ groups.length = n} 3 ∧
      (∃ wider, plan { narrow with maxCommandLength := 4096 } crowded = .ok wider ∧
        wider.length ≤ 3) ∧
      ∃ fewer, plan narrow [[97], [98], [99]] = .ok fewer ∧ fewer.length ≤ 3 := by
  have hv : narrow.Valid := by decide
  obtain ⟨batches, hplan, hleast, hwider, hfewer⟩ := plan_isLeast hv crowded
  have hthree : batches.length = 3 := by
    rw [← Except.ok.inj ((plan_eq_ok hv crowded).symm.trans hplan)]
    decide +kernel
  rw [hthree] at hleast hwider hfewer
  exact ⟨hv, batches, hplan, hthree, hleast, hwider 4096 (by decide),
    hfewer [[97], [98], [99]] (by decide)⟩

end LintDispatch.Plan
