import LintDispatch.Proofs.Run.Agreement

/-!
# How runs end
What a run stands for, whatever the number of its workers and their schedule. A run with a result
has linted every batch of its plan in a round of its own (`Executor.Linted`): the processes were
handed the files of the run, each of them once, and the result is what their reports tell. A run
without one has been given up before its first batch (`Executor.GivenUp`), and then it does nothing,
or a batch has failed (`Executor.run_eq_error_iff`).
-/

namespace LintDispatch

variable {ρ τ : Type} {x : Executor ρ τ} {config : Config} {files : List Path}

/-! ## Runs with a result -/

namespace Executor

variable {s s' : Session ρ τ}

/-- What a run with a result has done, in whatever order: one round for each batch of its plan. -/
structure Linted (x : Executor ρ τ) (config : Config) (files : List Path) (s s' : Session ρ τ)
    (result : Except Failure RunResult) (history : History) (rounds : List Round) : Prop where
  plan_eq : plan config files = .ok (rounds.map Round.batch)
  leads : Leads x s history s'
  calls_eq : s'.calls = s.calls ++ history.calls
  /-- The runner has been called once for each round, and for nothing else. -/
  calls_perm : history.calls.Perm (rounds.map (Round.call config))
  /-- The files of the calls are the files of the run. -/
  files_eq : (rounds.map (Round.call config)).flatMap (fun c => c.command.fileArgs config) = files
  /-- The outcome is the answer to the call of the round, and the report is what was read after it
  from its output file. -/
  deeds_eq : ∀ r ∈ rounds, ∃ after, history.of r.batch.index =
    [.check false, .ask (.ok r.output), .call (r.call config) (.ok r.outcome) after,
      .read r.output (.ok r.report), .release r.output]
  /-- Each process ended well without a report, or it left one that can be read. -/
  accepted : ∀ r ∈ rounds, r.Accepted
  result_eq : result = .ok ⟨rounds.flatMap Round.issues, rounds.length⟩

variable {result : Except Failure RunResult} {batches : List Batch} {history : History}
  {lives : List Life}

/-- A run that accounts for its batches and has a result has linted them. -/
theorem Accounts.exists_linted (a : Accounts x config files s s' result batches history lives)
    {found : RunResult} (hr : result = .ok found) :
    ∃ rounds, Linted x config files s s' result history rounds := by
  obtain ⟨rounds, hbatches, hlived⟩ := Round.exists_lived a.lived (a.result_eq_some_ok hr)
  have hlife : ∀ r ∈ rounds, ∃ l, r.Lived config l ∧ history.of r.batch.index = l.deeds := by
    intro r hmem
    obtain ⟨i, hi, rfl⟩ := List.getElem_of_mem hmem
    obtain ⟨hlen, hlived⟩ := List.forall₂_iff_get.mp hlived
    have hl : lives[i]? = some lives[i] := List.getElem?_eq_getElem (hlen ▸ hi)
    obtain ⟨b, hb, hindex, hdeeds, -⟩ := a.exists_lived hl
    obtain rfl : rounds[i].batch = b := by simpa [← hbatches, hi] using hb
    exact ⟨lives[i], hlived i hi (hlen ▸ hi), by rw [hindex, hdeeds]⟩
  refine ⟨rounds, ?_, a.leads, a.calls_eq, ?_, ?_, fun r hmem => ?_, fun r hmem => ?_, ?_⟩
  · rw [hbatches]
    exact a.plan_eq
  · rw [history.calls_eq, ← Round.filterMap_call?_lives hlived]
    exact a.perm_deeds.filterMap _
  · rw [flatMap_fileArgs_rounds, hbatches]
    exact (Plan.isGreedy_of_plan_eq_ok a.plan_eq).files
  · obtain ⟨l, lived, hdeeds⟩ := hlife r hmem
    obtain ⟨after, heq⟩ := lived.deeds_eq
    exact ⟨after, hdeeds.trans heq⟩
  · obtain ⟨l, lived, -⟩ := hlife r hmem
    exact lived.accepted
  · obtain ⟨found', hfound, rfl⟩ := a.completed found hr
    rw [Round.map_result_lives hlived] at hfound
    have hinj : Function.Injective fun issues : List Issue =>
        some (Except.ok (ε := Failure) issues) :=
      fun _ _ h => Except.ok.inj (Option.some.inj h)
    have hissues := List.map_injective_iff.mpr hinj hfound
    rw [hr, ← hissues, List.length_map, List.flatMap_def]

/-! ## Runs without a result -/

/-- Some batch of the run has failed. -/
def FailsInBatch (x : Executor ρ τ) (config : Config) (files : List Path) (crew : Crew)
    (s : Session ρ τ) : Prop :=
  ∃ batches history lives, Accounts x config files s (x.run config files crew s).2
    (x.run config files crew s).1 batches history lives ∧
      ∃ l ∈ lives, ∃ e, l.failure? = some e

/-- A failure that a run accounts for is that of a batch. -/
theorem Accounts.failure_cases (a : Accounts x config files s s' result batches history lives)
    {e : Failure} (he : result = .error e) :
    (∃ completed, e = .cancelled completed) ∨
      ∃ i total fileCount cause, e = .batch i total fileCount cause := by
  obtain ⟨l, hl, hfailed⟩ := List.exists_of_findSome?_eq_some (a.failed e he)
  obtain ⟨i, hi⟩ := List.getElem?_of_mem hl
  obtain ⟨b, -, -, -, hlived⟩ := a.exists_lived hi
  rw [Batch.Lived, Life.result_of_failure?_eq hfailed] at hlived
  rcases hlived.error_cases with h | ⟨cause, h⟩
  · exact Or.inl h
  · exact Or.inr ⟨_, _, _, cause, h⟩

/-- What keeps a run from its first batch, though its configuration can drive it. -/
inductive GivenUp (config : Config) (files : List Path) (crew : Crew) : Prop
  /-- A path is blank. -/
  | blank {f : Path} (mem : f ∈ files) (blank : f.isBlank = true)
  /-- There are to be several workers, and they cannot be started. -/
  | unstaffed {reason : String} (jobs : 1 < config.jobs) (crew_eq : crew = .unavailable reason)

variable {crew : Crew}

/-- A run that is given up does nothing at all, and its failure is not that of a batch. -/
theorem run_of_givenUp (h : GivenUp config files crew) (x : Executor ρ τ) (s : Session ρ τ) :
    ∃ e, x.run config files crew s = (.error e, s) ∧
      ((∃ text, e = .invalidArgument text) ∨ ∃ reason, e = .io (.other reason)) := by
  rw [run_eq_lint]
  cases hcheck : checkInputs config files with
  | error e =>
    exact ⟨e, lint_of_checkInputs_eq_error hcheck x _ s,
      Or.inl (exists_of_checkInputs_eq_error hcheck)⟩
  | ok u =>
    cases h with
    | blank mem blank =>
      have hnamed := (checkInputs_eq_ok_iff.mp hcheck).2 _ mem
      exact absurd (hnamed.symm.trans blank) (by simp)
    | @unstaffed reason jobs crew_eq =>
      have hobstacle := Mode.obstacle?_ofJobs_eq_some.mpr ⟨jobs, crew_eq⟩
      exact ⟨_, lint_of_obstacle hobstacle hcheck x s, Or.inr ⟨reason, rfl⟩⟩

theorem not_failsInBatch_of_givenUp (h : GivenUp config files crew) :
    ¬x.FailsInBatch config files crew s := by
  rintro ⟨batches, history, lives, a, -⟩
  obtain ⟨e, heq, hcause⟩ := run_of_givenUp h x s
  rcases a.failure_cases (congrArg Prod.fst heq) with ⟨completed, rfl⟩ | ⟨i, total, n, cause, rfl⟩
  all_goals rcases hcause with ⟨text, h⟩ | ⟨reason, h⟩ <;> cases h

/-- A run that is not given up accounts for its batches. -/
theorem run_accounts (hv : config.Valid) (h : ¬GivenUp config files crew) (x : Executor ρ τ)
    (s : Session ρ τ) : ∃ history lives,
      Accounts x config files s (x.run config files crew s).2 (x.run config files crew s).1
        (Plan.batches config files) history lives := by
  have hfiles : ∀ f ∈ files, f.isBlank = false := by
    intro f hf
    by_contra hblank
    exact h (.blank hf (by simpa using hblank))
  have hobstacle : (Mode.ofJobs config crew).obstacle? = none := by
    by_contra hsome
    obtain ⟨reason, hreason⟩ := Option.ne_none_iff_exists'.mp hsome
    obtain ⟨jobs, crew_eq⟩ := Mode.obstacle?_ofJobs_eq_some.mp hreason
    exact h (.unstaffed jobs crew_eq)
  rw [run_eq_lint]
  obtain ⟨history, lives, a, -⟩ := lint_accounts hobstacle (checkInputs_eq_ok hv hfiles) x s
  exact ⟨history, lives, a⟩

/-- A run with a result has linted its batches. -/
theorem exists_linted_of_run (hv : config.Valid) {found : RunResult}
    (hr : (x.run config files crew s).1 = .ok found) : ∃ history rounds,
      Linted x config files s (x.run config files crew s).2 (x.run config files crew s).1
        history rounds := by
  have hbegun : ¬GivenUp config files crew := by
    intro h
    obtain ⟨e, heq, -⟩ := run_of_givenUp h x s
    simp [heq] at hr
  obtain ⟨history, lives, a⟩ := run_accounts hv hbegun x s
  exact ⟨history, a.exists_linted hr⟩

/-- A run fails because a batch does, or because it is given up before. -/
theorem run_eq_error_iff (hv : config.Valid) (x : Executor ρ τ) (crew : Crew)
    (s : Session ρ τ) : (∃ e, (x.run config files crew s).1 = .error e) ↔
      x.FailsInBatch config files crew s ∨ GivenUp config files crew := by
  constructor
  · rintro ⟨e, he⟩
    by_cases h : GivenUp config files crew
    · exact Or.inr h
    · obtain ⟨history, lives, a⟩ := run_accounts hv h x s
      obtain ⟨l, hl, hfailed⟩ := List.exists_of_findSome?_eq_some (a.failed e he)
      exact Or.inl ⟨_, history, lives, a, l, hl, e, hfailed⟩
  · rintro (⟨batches, history, lives, a, l, hl, e, hfailed⟩ | h)
    · cases hr : (x.run config files crew s).1 with
      | error e => exact ⟨e, rfl⟩
      | ok found =>
        obtain ⟨issues, hissues⟩ := a.result_eq_some_ok hr l hl
        exact absurd ((Life.result_of_failure?_eq hfailed).symm.trans hissues) (by simp)
    · obtain ⟨e, heq, -⟩ := run_of_givenUp h x s
      exact ⟨e, congrArg Prod.fst heq⟩

end Executor

end LintDispatch
