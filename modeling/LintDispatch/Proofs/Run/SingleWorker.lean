import LintDispatch.Proofs.Run.Parallel

/-!
# A single worker
A pool with one worker takes a batch only when the work on every batch before it is over, so there
is never more than one batch that anything can be done for. `Executor.finish` is what still becomes
of a batch that has come to a stage, and no step changes it (`finish_of_step`). Hence no move
changes the end that the whole run is going to have (`Pool.Nears.move`): before the first move that
is the end of a run batch after batch, and after the last one it is the end of the run with the
pool.

`executeParallel_eq_execute`: with one worker a run with a pool and a run batch after batch are the
same, whatever the schedule. A failure leaves the one with batches to skip and makes the other one
stop, and neither of them does anything more.
-/

namespace LintDispatch

variable {ρ τ : Type}

namespace Executor

/-- What still becomes of a batch, one of `total`, that has come to a stage. If it has yet to find
out how many batches are done, these are `completed`. A batch that was left out has nothing to
tell. -/
def finish (x : Executor ρ τ) (config : Config) (batch : Batch) (total completed : Nat) :
    Stage → Session ρ τ → Except Failure (List Issue) × Session ρ τ
  | .waiting, s | .unmarked, s => x.runBatch config batch total completed s
  | .taken told, s => x.runBatch config batch total told s
  | .cleared, s =>
    match x.lintBatch config batch s with
    | (r, s) => (located batch total r, s)
  | .prepared command, s =>
    match x.perform config batch command s with
    | (.error e, s) => (located batch total (.error e), s)
    | (.ok outcome, s) =>
      match collect command outcome s with
      | (r, s) => (located batch total r, s)
  | .performed command outcome, s =>
    match collect command outcome s with
    | (r, s) => (located batch total r, s)
  | .done r, s | .settled r, s => (r, s)
  | .skipped, s => (.ok [], s)

end Executor

namespace Pool

variable {x : Executor ρ τ} {config : Config} {total : Nat} {b : Batch} {p : Pool ρ τ}
  {st st' : Stage} {ds : List Deed} {s s' : Session ρ τ} {i : Nat} {batches : List Batch}
  {outcome : Except Failure RunResult × Session ρ τ}

/-- A step before any failure leaves what still becomes of its batch as it was. -/
theorem finish_of_step (hv : config.Valid) (hb : b.files ≠ []) (hunmarked : p.failed = false)
    (step : Step x config total b p st ds st' s') :
    x.finish config b total p.completed st' s' =
      x.finish config b total p.completed st p.session := by
  cases step with
  | skip failed => exact absurd (hunmarked.symm.trans failed) (by simp)
  | take | count | settle => rfl
  | stop stopped => simp only [Executor.finish, Executor.runBatch, stopped, if_true]
  | go going =>
    simp only [Executor.finish, Executor.runBatch, going, Bool.false_eq_true, if_false]
  | refuse request =>
    simp only [Executor.finish, Executor.lintBatch, Executor.prepare_eq hv hb, request]
  | reject request overlong =>
    have overlong : (Command.ofBatch config _ b.files).overlong config = true := overlong
    simp only [Executor.finish, Executor.lintBatch, Executor.prepare_eq hv hb, request, overlong,
      if_true]
    rfl
  | prepare request fits =>
    have fits : (Command.ofBatch config _ b.files).overlong config = false := fits
    simp only [Executor.finish, Executor.lintBatch, Executor.prepare_eq hv hb, request, fits,
      Bool.false_eq_true, if_false, Batch.command]
    rcases x.perform config b (Command.ofBatch config _ b.files) s' with ⟨_ | _, _⟩ <;> rfl
  | crash launch => simp only [Executor.finish, Executor.perform, launch]
  | run launch => simp only [Executor.finish, Executor.perform, launch]
  | unread read => simp only [Executor.finish, Executor.collect, read]
  | judge read => simp only [Executor.finish, Executor.collect, read]

/-- The stages of batches that have been linted, by what was found in them. -/
def linted (found : List (List Issue)) : List Stage :=
  found.map fun issues => .settled (.ok issues)

@[simp] theorem length_linted (found : List (List Issue)) :
    (linted found).length = found.length :=
  List.length_map _

theorem linted_append (found found' : List (List Issue)) :
    linted (found ++ found') = linted found ++ linted found' :=
  List.map_append

theorem isFinal_of_mem_linted {found : List (List Issue)} (h : st ∈ linted found) :
    st.isFinal = true := by
  obtain ⟨issues, -, rfl⟩ := List.mem_map.mp h
  rfl

/-- How far a run with one worker has come that is going to have this end. -/
inductive Nears (x : Executor ρ τ) (config : Config) (batches : List Batch)
    (outcome : Except Failure RunResult × Session ρ τ) (p : Pool ρ τ) : Prop
  /-- Some batches have been linted, and the next one has come to a stage before its end. -/
  | going {before rest : List Batch} {b : Batch} {found : List (List Issue)} {st : Stage}
      (batches_eq : batches = before ++ b :: rest) (length_eq : before.length = found.length)
      (stages_eq : p.stages = linted found ++ st :: rest.map fun _ => .waiting)
      (unfinished : st.isFinal = false) (unmarked : p.failed = false)
      (completed_eq : p.completed = found.length)
      (outcome_eq : x.goOn config batches.length rest ⟨found.flatten, found.length⟩
        (x.finish config b batches.length found.length st p.session) = outcome)
  /-- All batches have been linted. -/
  | complete {found : List (List Issue)}
      (stages_eq : p.stages = linted found)
      (outcome_eq : (.ok ⟨found.flatten, found.length⟩, p.session) = outcome)
  /-- A batch has failed, and those after it are left out. -/
  | halted {found : List (List Issue)} {e : Failure} {rest : List Stage}
      (stages_eq : p.stages = linted found ++ .settled (.error e) :: rest)
      (idle : ∀ st ∈ rest, st = .waiting ∨ st = .skipped) (marked : p.failed = true)
      (outcome_eq : (.error e, p.session) = outcome)

/-- A run that has linted some batches and comes to the next ones. -/
theorem nears_of_linted (before rest : List Batch) (found : List (List Issue))
    (batches_eq : batches = before ++ rest) (length_eq : before.length = found.length)
    (stages_eq : p.stages = linted found ++ rest.map fun _ => .waiting)
    (unmarked : p.failed = false) (completed_eq : p.completed = found.length)
    (outcome_eq : x.runBatches config batches.length rest ⟨found.flatten, found.length⟩ p.session =
      outcome) : Nears x config batches outcome p := by
  cases rest with
  | nil => exact .complete (by simpa using stages_eq) outcome_eq
  | cons b rest =>
    rw [Executor.runBatches_cons] at outcome_eq
    exact .going batches_eq length_eq stages_eq rfl unmarked completed_eq outcome_eq

/-- A worker who is alone only takes a batch after all those before it. -/
theorem isFinal_of_mayTake (h : p.mayTake 1 i = true) :
    ∀ st ∈ p.stages.take i, st.isFinal = true := by
  simpa [mayTake] using (Bool.and_eq_true_iff.mp h).2

/-- The work on a batch is not over while there are steps to take. -/
theorem Step.isFinal_eq_false (step : Step x config total b p st ds st' s') :
    st.isFinal = false := by
  cases step <;> rfl

/-- The batch that a step is about is the first one whose work is not over. -/
theorem Step.eq_length {found : List (List Issue)} {after : List Stage} {st₀ : Stage}
    (step : Step x config total b p st ds st' s') (hi : p.stages[i]? = some st)
    (hmay : st = .waiting → p.mayTake 1 i = true)
    (stages_eq : p.stages = linted found ++ st₀ :: after) (unfinished : st₀.isFinal = false)
    (idle : ∀ st ∈ after, st = .waiting) : i = found.length ∧ st = st₀ := by
  have hst := step.isFinal_eq_false
  rw [stages_eq] at hi
  rcases Nat.lt_trichotomy i (linted found).length with hlt | rfl | hlt
  · rw [List.getElem?_append_left hlt] at hi
    exact absurd (hst.symm.trans (isFinal_of_mem_linted (List.mem_of_getElem? hi))) (by simp)
  · rw [List.getElem?_append_right (Nat.le_refl _), Nat.sub_self] at hi
    exact ⟨length_linted found, (Option.some.inj hi).symm⟩
  · -- the batch is waiting, and the work on one before it is not over
    obtain ⟨k, rfl⟩ : ∃ k, i = (linted found).length + (k + 1) :=
      ⟨i - (linted found).length - 1, by omega⟩
    rw [List.getElem?_append_right (Nat.le_add_right _ _), Nat.add_sub_cancel_left,
      List.getElem?_cons_succ] at hi
    have hfinal := isFinal_of_mayTake (hmay (idle st (List.mem_of_getElem? hi))) st₀
    rw [stages_eq, List.take_length_add_append, List.take_succ_cons] at hfinal
    exact absurd (unfinished.symm.trans (hfinal (by simp))) (by simp)

/-- The batch that a step is about stands behind one that has failed, and was waiting. -/
theorem Step.exists_waiting {found : List (List Issue)} {e : Failure} {rest : List Stage}
    (step : Step x config total b p st ds st' s') (hi : p.stages[i]? = some st)
    (stages_eq : p.stages = linted found ++ .settled (.error e) :: rest)
    (idle : ∀ st ∈ rest, st = .waiting ∨ st = .skipped) :
    ∃ k, i = found.length + (k + 1) ∧ st = .waiting := by
  have hst := step.isFinal_eq_false
  rw [stages_eq] at hi
  rcases Nat.lt_or_ge i (linted found).length with hlt | hle
  · rw [List.getElem?_append_left hlt] at hi
    exact absurd (hst.symm.trans (isFinal_of_mem_linted (List.mem_of_getElem? hi))) (by simp)
  · obtain ⟨k, rfl⟩ := Nat.exists_eq_add_of_le hle
    rw [List.getElem?_append_right hle, Nat.add_sub_cancel_left] at hi
    cases k with
    | zero =>
      rw [← Option.some.inj hi] at hst
      cases hst
    | succ k =>
      refine ⟨k, by rw [length_linted], (idle st (List.mem_of_getElem? hi)).resolve_right ?_⟩
      rintro rfl
      cases hst

/-- After a failure a batch that was waiting is skipped, and nothing is done for it. -/
theorem Step.skipped_of_failed (step : Step x config total b p st ds st' s')
    (failed : p.failed = true) (hst : st = .waiting) : st' = .skipped ∧ s' = p.session := by
  subst hst
  cases step with
  | skip => exact ⟨rfl, rfl⟩
  | take unmarked => exact absurd (unmarked.symm.trans failed) (by simp)

/-- A move does not change the end of a run with one worker. -/
theorem Nears.move (hv : config.Valid) (hne : ∀ b ∈ batches, b.files ≠ [])
    (nears : Nears x config batches outcome p) {m : Move} (hm : m ≠ .cancel) :
    Nears x config batches outcome (p.move x config 1 batches m) := by
  obtain ⟨i, rfl⟩ : ∃ i, m = .advance i := by
    cases m with
    | advance i => exact ⟨i, rfl⟩
    | cancel => exact absurd rfl hm
  rcases advance_cases hv hne x 1 p i with heq | ⟨c, st, ds, st', s', hc, hi, hmay, step, heq⟩
  · rw [heq]
    exact nears
  rw [heq]
  have hst := step.isFinal_eq_false
  cases nears with
  | @going before rest b found st₀ batches_eq length_eq stages_eq unfinished unmarked completed_eq
      outcome_eq =>
    obtain ⟨rfl, rfl⟩ := step.eq_length hi hmay stages_eq unfinished (by simp)
    obtain rfl : b = c := by simpa [batches_eq, ← length_eq] using hc
    have hfinish := finish_of_step hv (hne b (List.mem_of_getElem? hc)) unmarked step
    rw [completed_eq] at hfinish
    rw [← hfinish] at outcome_eq
    have hstages : (p.next found.length st' s').stages =
        linted found ++ st' :: rest.map fun _ => .waiting := by
      simp [next, stages_eq]
    cases st' with
    | skipped => exact absurd (unmarked.symm.trans step.failed_of_skipped) (by simp)
    | settled r =>
      cases r with
      | error e => exact .halted hstages (by simp) rfl outcome_eq
      | ok issues =>
        refine nears_of_linted (before ++ [b]) rest (found ++ [issues]) (by simp [batches_eq])
          (by simp [length_eq]) ?_ unmarked (by simp [next, completed_eq, Stage.succeeded]) ?_
        · rw [hstages, linted_append, List.append_assoc]
          rfl
        · simpa [next, Executor.goOn, Executor.finish, RunResult.push] using outcome_eq
    | waiting | unmarked | taken | cleared | prepared | performed | done =>
      exact .going batches_eq length_eq hstages rfl unmarked completed_eq outcome_eq
  | @complete found stages_eq =>
    rw [stages_eq] at hi
    exact absurd (hst.symm.trans (isFinal_of_mem_linted (List.mem_of_getElem? hi))) (by simp)
  | @halted found e rest stages_eq idle marked outcome_eq =>
    obtain ⟨k, rfl, hwaiting⟩ := step.exists_waiting hi stages_eq idle
    obtain ⟨rfl, rfl⟩ := step.skipped_of_failed marked hwaiting
    have hstages : (p.next (found.length + (k + 1)) .skipped p.session).stages =
        linted found ++ .settled (.error e) :: rest.set k .skipped := by
      have hlen := length_linted found
      rw [next, stages_eq, ← hlen, List.set_append_right _ _ (Nat.le_add_right _ _),
        Nat.add_sub_cancel_left, List.set_cons_succ]
    exact .halted hstages (fun st hmem => (List.mem_or_eq_of_mem_set hmem).elim (idle st) Or.inr)
      (by simp [next, marked]) outcome_eq

theorem Nears.follow (hv : config.Valid) (hne : ∀ b ∈ batches, b.files ≠ []) :
    ∀ {schedule : Schedule} {p : Pool ρ τ}, Nears x config batches outcome p →
      Move.cancel ∉ schedule →
      Nears x config batches outcome (p.follow x config 1 batches schedule)
  | [], p, nears, _ => nears
  | m :: schedule, p, nears, hcalm => by
    rw [List.mem_cons, not_or] at hcalm
    exact (nears.move hv hne (Ne.symm hcalm.1)).follow hv hne hcalm.2

/-- The results of batches that have been linted are gathered in order. -/
theorem gather_linted (rest : List Stage) :
    ∀ (found : List (List Issue)) (result : RunResult),
      gather (linted found ++ rest) result =
        gather rest ⟨result.issues ++ found.flatten, result.batches + found.length⟩
  | [], result => by simp [linted]
  | issues :: found, result => by
    have hcount : result.batches + 1 + found.length =
        result.batches + (issues :: found).length := by
      rw [List.length_cons]
      omega
    rw [linted, List.map_cons, List.cons_append, gather, ← linted, gather_linted rest found,
      RunResult.push, List.flatten_cons, List.append_assoc, hcount]

/-- When the work on every batch is over, the run has come to its end. -/
theorem Nears.gather_eq (nears : Nears x config batches outcome p)
    (hfinal : ∀ st ∈ p.stages, st.isFinal = true) : (gather p.stages {}, p.session) = outcome := by
  cases nears with
  | @going _ _ _ found st _ _ stages_eq unfinished =>
    have hst := hfinal st (by simp [stages_eq])
    exact absurd (unfinished.symm.trans hst) (by simp)
  | @complete found stages_eq outcome_eq =>
    have hgather := gather_linted [] found {}
    rw [List.append_nil, ← stages_eq] at hgather
    rw [hgather, ← outcome_eq]
    simp [gather]
  | @halted found e rest stages_eq _ _ outcome_eq =>
    rw [stages_eq, gather_linted, ← outcome_eq]
    rfl

end Pool

namespace Executor

/-- With a single worker a run with a pool does what a run batch after batch does and ends as it
does, whatever the schedule: the results and the sessions after the two runs are the same, and so
are their calls, their requests, the files and whether the run has been cancelled. -/
theorem executeParallel_eq_execute {config : Config} (hjobs : config.jobs ≤ 1) (x : Executor ρ τ)
    (files : List Path) {schedule : Schedule} (hcalm : Move.cancel ∉ schedule)
    (s : Session ρ τ) :
    x.executeParallel config files (.atWork schedule) s = x.execute config files s := by
  cases h : checkInputs config files with
  | error e => rw [executeParallel, execute, planChecked, h]
  | ok u =>
    have hv := valid_of_checkInputs h
    have hne := (Plan.isGreedy_batches config files).nonempty
    have hworkers : workers config = 1 := by
      have := UInt64.le_iff_toNat_le.mp hjobs
      simp only [workers, UInt64.toNat_one] at this ⊢
      omega
    obtain ⟨history, sound, hfinal, -⟩ := runPool_sound hv hne x schedule s
    have hstart : Pool.Nears x config (Plan.batches config files) (x.execute config files s)
        ⟨s, (Plan.batches config files).map fun _ => .waiting, false, 0⟩ := by
      rw [execute_eq_runBatches h]
      exact Pool.nears_of_linted [] _ [] rfl rfl rfl rfl rfl rfl
    have hend : Pool.Nears x config (Plan.batches config files) (x.execute config files s)
        (x.runPool config schedule (Plan.batches config files) s) := by
      rw [runPool, hworkers]
      exact (hstart.follow hv hne hcalm).follow hv hne (Pool.cancel_not_mem_remaining _)
    rw [executeParallel_eq h]
    exact hend.gather_eq hfinal

/-- A schedule that asks for later batches first. -/
def impatient : Schedule := [2, 1, 0, 1, 0].map .advance

/-- Five files in three batches, of which the second one fails and the third one is left out. -/
theorem executeParallel_failsOnce_eq_execute :
    Plan.narrow.jobs ≤ 1 ∧ Move.cancel ∉ impatient ∧
      (failsOnce.executeParallel Plan.narrow [[97], [98], [99], [100], [101]] (.atWork impatient)
        .fresh).1 = .error (.batch 1 3 2 (.processFailed (some 2) "no")) ∧
      failsOnce.executeParallel Plan.narrow [[97], [98], [99], [100], [101]] (.atWork impatient)
        .fresh = failsOnce.execute Plan.narrow [[97], [98], [99], [100], [101]] .fresh := by
  have hjobs : Plan.narrow.jobs ≤ 1 := by decide
  have hcalm : Move.cancel ∉ impatient := by decide
  exact ⟨hjobs, hcalm, by decide +kernel, executeParallel_eq_execute hjobs failsOnce _ hcalm .fresh⟩

end Executor

end LintDispatch
