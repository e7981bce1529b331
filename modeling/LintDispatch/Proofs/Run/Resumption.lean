import LintDispatch.Proofs.Plan.Boundaries
import LintDispatch.Proofs.Run.Calls
import LintDispatch.Proofs.Run.Cancellation

/-!
# Going on after a cancellation
A run that goes batch after batch and is cancelled after `k` batches has linted the first `k`
batches of its plan, so what is left are the files from a boundary on. These are planned as they
were before (`Plan.batches_drop`): a run of them goes through the batches that were left, with the
same files in each and the same time for them, whatever executor it is given to (`Resumes`).

`execute_resumes` says so beside what it rests on, that the boundaries of a plan depend neither on
the files that come after them nor on those that came before.
-/

namespace LintDispatch.Executor

variable {ρ τ ρ' τ' : Type} {x : Executor ρ τ} {config : Config} {s : Session ρ τ}

/-- From the session `s`, the files that a plan leaves after its first `k` batches are linted in the
batches that it leaves. -/
structure Resumes (x : Executor ρ τ) (config : Config) (batches : List Batch) (k : Nat)
    (s s' : Session ρ τ) (outcome : Except Failure RunResult) : Prop where
  run_eq : x.execute config ((batches.drop k).flatMap Batch.files) s = (outcome, s')
  /-- The run goes through the batches that were left, counted from zero. -/
  ends : Ends x config (batches.length - k) {} (Plan.renumbered (batches.drop k)) s outcome s'
  /-- It calls for the first ones of these, and for nothing else. -/
  called : ∃ n, CallsFor config ((batches.drop k).take n) s s'
  /-- With a result it has called for all of them. -/
  complete : ∀ result, outcome = .ok result →
    CallsFor config (batches.drop k) s s' ∧ result.batches = batches.length - k

/-- A run that was cancelled had usable inputs. -/
theorem checkInputs_of_cancelled {files : List Path} {k : Nat}
    (h : (x.execute config files s).1 = .error (.cancelled k)) :
    checkInputs config files = .ok () := by
  cases hcheck : checkInputs config files with
  | ok u => rfl
  | error e =>
    obtain ⟨text, rfl⟩ := exists_of_checkInputs_eq_error hcheck
    simp [execute, planChecked, hcheck] at h

/-- If the inputs of a plan are usable, so are the files of some of its batches. -/
theorem checkInputs_of_subset {files : List Path} (h : checkInputs config files = .ok ())
    {batches : List Batch} (hsub : batches ⊆ Plan.batches config files) :
    checkInputs config (batches.flatMap Batch.files) = .ok () := by
  obtain ⟨hv, hfiles⟩ := checkInputs_eq_ok_iff.mp h
  refine checkInputs_eq_ok hv fun f hf => hfiles f ?_
  rw [← (Plan.isGreedy_batches config files).files]
  obtain ⟨b, hb, hfb⟩ := List.mem_flatMap.mp hf
  exact List.mem_flatMap.mpr ⟨b, hsub hb, hfb⟩

/-- What is left of a usable plan after its first `k` batches can be resumed. -/
theorem resumes_batches {files : List Path} (h : checkInputs config files = .ok ())
    (x : Executor ρ τ) (s : Session ρ τ) (k : Nat) :
    ∃ s' outcome, Resumes x config (Plan.batches config files) k s s' outcome := by
  have hcheck := checkInputs_of_subset h (List.drop_subset k (Plan.batches config files))
  have hends := (execute_ends hcheck x s).2
  rw [Plan.batches_drop, Plan.length_renumbered, List.length_drop] at hends
  obtain ⟨n, hfor, hok, -⟩ := hends.callsFor
  have hfor : CallsFor config (((Plan.batches config files).drop k).take n) s _ :=
    hfor.of_files_eq (by rw [List.map_take, Plan.map_files_renumbered, List.map_take])
  refine ⟨_, _, rfl, hends, ⟨n, hfor⟩, fun result hresult => ?_⟩
  obtain ⟨hn, hcount⟩ := hok result hresult
  rw [Plan.length_renumbered] at hn
  rw [hn, List.take_length] at hfor
  exact ⟨hfor, by rw [hcount, hn, Nat.zero_add, List.length_drop]⟩

/-- The boundaries of a plan stay where they are when files are added at the end, and when files are
left out up to one of them. So a run of what a cancelled run has left goes through the batches that
were not run, whoever runs them. -/
theorem execute_resumes (h : config.Valid) (files : List Path) (x : Executor ρ τ)
    (y : Executor ρ' τ') :
    ∃ batches, plan config files = .ok batches ∧
      (files ≠ [] → ∀ more, ∃ kept last added later, batches = kept ++ [last] ∧
        plan config (files ++ more) =
          .ok (kept ++ ⟨last.index, last.files ++ added⟩ :: later)) ∧
      (∀ k, plan config ((batches.drop k).flatMap Batch.files) =
        .ok (Plan.renumbered (batches.drop k))) ∧
      ∀ s k, (x.execute config files s).1 = .error (.cancelled k) →
        k < batches.length ∧
        CallsFor config (batches.take k) s (x.execute config files s).2 ∧
        ∀ t, ∃ t' outcome, Resumes y config batches k t t' outcome := by
  refine ⟨Plan.batches config files, plan_eq_ok h files, ?_, ?_, ?_⟩
  · intro hne more
    obtain ⟨kept, last, added, later, hkept, happend⟩ := Plan.batches_append config hne more
    exact ⟨kept, last, added, later, hkept, by rw [plan_eq_ok h, happend]⟩
  · intro k
    rw [plan_eq_ok h, Plan.batches_drop]
  · intro s k hcancelled
    have hcheck := checkInputs_of_cancelled hcancelled
    obtain ⟨n, hfor, -, hcount⟩ := (execute_ends hcheck x s).2.callsFor
    obtain ⟨hk, hlt⟩ := hcount k hcancelled
    obtain rfl : k = n := by simpa using hk
    exact ⟨hlt, hfor, fun t => resumes_batches hcheck y t k⟩

/-- Of five files in three batches, the first four are linted before the run is cancelled. The last
batch, which was left, is the one that more files would have joined. -/
theorem execute_withdrawing_resumes :
    Plan.narrow.Valid ∧
      ((withdrawing 1).execute Plan.narrow [[97], [98], [99], [100], [101]] .fresh).1 =
        .error (.cancelled 2) ∧
      plan Plan.narrow [[97], [98], [99], [100], [101]] =
        .ok [⟨0, [[97], [98]]⟩, ⟨1, [[99], [100]]⟩, ⟨2, [[101]]⟩] ∧
      (∃ kept last added later,
        [⟨0, [[97], [98]]⟩, ⟨1, [[99], [100]]⟩, ⟨2, [[101]]⟩] = kept ++ [last] ∧
        plan Plan.narrow [[97], [98], [99], [100], [101], [102], [103]] =
          .ok (kept ++ ⟨last.index, last.files ++ added⟩ :: later)) ∧
      plan Plan.narrow [[101]] = .ok [⟨0, [[101]]⟩] ∧
      ∃ t' outcome, Resumes failsOnce Plan.narrow
        [⟨0, [[97], [98]]⟩, ⟨1, [[99], [100]]⟩, ⟨2, [[101]]⟩] 2 .fresh t' outcome := by
  have hv : Plan.narrow.Valid := by decide
  obtain ⟨batches, hplan, happend, hdrop, hresumes⟩ :=
    execute_resumes hv [[97], [98], [99], [100], [101]] (withdrawing 1) failsOnce
  have hcancelled : ((withdrawing 1).execute Plan.narrow [[97], [98], [99], [100], [101]]
      .fresh).1 = .error (.cancelled 2) := by decide +kernel
  have hbatches : plan Plan.narrow [[97], [98], [99], [100], [101]] =
      .ok [⟨0, [[97], [98]]⟩, ⟨1, [[99], [100]]⟩, ⟨2, [[101]]⟩] := by decide +kernel
  obtain rfl := Except.ok.inj (hplan.symm.trans hbatches)
  obtain ⟨-, -, hresumes⟩ := hresumes .fresh 2 hcancelled
  exact ⟨hv, hcancelled, hbatches, happend (List.cons_ne_nil _ _) [[102], [103]], hdrop 2,
    hresumes .fresh⟩

end LintDispatch.Executor
