import LintDispatch.Proofs.Run.History

/-!
# The calls of a run
A run that goes batch after batch calls the runner for its batches in turn, each time with the
command of the batch and the time its files are allowed (`Executor.CallsFor`). A round is one such
call, and a batch that fails has had one or none. So the calls of a run are those for the first
batches of its plan (`Ends.callsFor`): for all of them if there is a result, and for as many as the
failure tells if the run was cancelled.
-/

namespace LintDispatch.Executor

variable {ρ τ : Type} {x : Executor ρ τ} {config : Config} {s s₁ s' : Session ρ τ}
  {batches batches' : List Batch}

/-- From the one session to the other the runner has been called for the batches in turn, each time
with some output file, and for nothing else. -/
def CallsFor (config : Config) (batches : List Batch) (s s' : Session ρ τ) : Prop :=
  ∃ ran, s'.calls = s.calls ++ ran ∧
    List.Forall₂ (fun b c => ∃ o, c = b.call config o) batches ran

theorem CallsFor.append (h : CallsFor config batches s s₁) (h' : CallsFor config batches' s₁ s') :
    CallsFor config (batches ++ batches') s s' := by
  obtain ⟨ran, hcalls, hran⟩ := h
  obtain ⟨ran', hcalls', hran'⟩ := h'
  exact ⟨ran ++ ran', by rw [hcalls', hcalls, List.append_assoc], List.rel_append hran hran'⟩

/-- The position of a batch in its plan does not matter to its call. -/
theorem CallsFor.of_files_eq (h : CallsFor config batches s s')
    (hfiles : batches.map Batch.files = batches'.map Batch.files) :
    CallsFor config batches' s s' := by
  obtain ⟨ran, hcalls, hran⟩ := h
  have hfor : List.Forall₂ (fun files c => ∃ o, c = Batch.call config ⟨0, files⟩ o)
      (batches.map Batch.files) ran := List.forall₂_map_left_iff.mpr hran
  rw [hfiles] at hfor
  exact ⟨ran, hcalls, List.forall₂_map_left_iff.mp hfor⟩

theorem Rounds.callsFor {rs : List Round} (h : Rounds x config s rs s') :
    CallsFor config (rs.map Round.batch) s s' := by
  refine ⟨rs.map (Round.call config), h.record.2, ?_⟩
  rw [List.forall₂_map_left_iff, List.forall₂_map_right_iff, List.forall₂_same]
  exact fun r _ => ⟨r.output, rfl⟩

/-- A failed batch has been called for once, or not at all. -/
theorem Fails.callsFor {b : Batch} {calls : List Call} {e : Failure}
    (h : Fails x config b s calls e s') : CallsFor config [] s s' ∨ CallsFor config [b] s s' := by
  have hcalls := h.record.2.1
  cases h with
  | request | overlong => exact Or.inl ⟨_, hcalls, .nil⟩
  | @launch o | @read o => exact Or.inr ⟨_, hcalls, .cons ⟨o, rfl⟩ .nil⟩
  | @silent r _ _ batch_eq | @garbled r _ _ _ batch_eq =>
    subst batch_eq
    exact Or.inr ⟨_, hcalls, .cons ⟨r.output, rfl⟩ .nil⟩

/-- The rest of a run calls for the first ones of its batches. With a result these are all of them,
and otherwise a cancellation tells how many they are. -/
theorem Ends.callsFor {total : Nat} {result : RunResult} {outcome : Except Failure RunResult}
    (h : Ends x config total result batches s outcome s') :
    ∃ n, CallsFor config (batches.take n) s s' ∧
      (∀ r, outcome = .ok r → n = batches.length ∧ r.batches = result.batches + n) ∧
      ∀ k, outcome = .error (.cancelled k) → k = result.batches + n ∧ n < batches.length := by
  cases h with
  | @completed rs _ rounds _ batches_eq =>
    have hlen : rs.length = batches.length := by rw [← batches_eq, List.length_map]
    refine ⟨batches.length, ?_, fun r hr => ⟨rfl, ?_⟩, by simp⟩
    · rw [List.take_length, ← batches_eq]
      exact rounds.callsFor
    · rw [← Except.ok.inj hr, ← hlen]
  | @cancelled rs b rest _ rounds _ batches_eq =>
    have hlen : (rs.map Round.batch).length = rs.length := List.length_map _
    refine ⟨rs.length, ?_, by simp, fun k hk => ⟨?_, ?_⟩⟩
    · rw [← batches_eq, ← hlen, List.take_left]
      exact rounds.callsFor
    · simpa using hk.symm
    · rw [← batches_eq, List.length_append, hlen, List.length_cons]
      omega
  | @failed rs b rest _ _ _ _ rounds _ batches_eq _ fails =>
    have hlen : (rs.map Round.batch).length = rs.length := List.length_map _
    have hsplit : rs.map Round.batch ++ [b] ++ rest = batches := by
      rw [List.append_assoc, List.singleton_append, batches_eq]
    rcases fails.callsFor with hnone | hone
    · refine ⟨rs.length, ?_, by simp, by simp⟩
      rw [← batches_eq, ← hlen, List.take_left]
      simpa using rounds.callsFor.append hnone
    · refine ⟨rs.length + 1, ?_, by simp, by simp⟩
      rw [← hsplit, List.take_left' (by simp)]
      exact rounds.callsFor.append hone

end LintDispatch.Executor
