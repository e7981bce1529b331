import LintDispatch.Proofs.Run.PerFile
import LintDispatch.Proofs.Run.Pool

/-!
# Runs with several workers
When a pool has come to its end, the life of a batch can be read off its stage and the history of
the pool (`Pool.lives`). So a run with several workers accounts for its batches just as one does
that goes batch after batch (`executeParallel_accounts`), and what follows from an account holds of
both (`lint_accounts`). Only a run whose workers cannot be started has nothing to account for: it
fails with what the host says and leaves everything as it is (`lint_of_obstacle`).

A run that leaves batches out might hide that. `executeParallel_discloses`: it does not, whatever
the schedule. A batch is only left out after a mark, the mark comes with a batch that has failed,
and so a run with a result has linted every batch.
-/

namespace LintDispatch

variable {ρ τ : Type}

namespace Stage

/-- The result of a batch whose work is over. -/
def result? : Stage → Option (Except Failure (List Issue))
  | settled r => some r
  | _ => none

/-- The life of a batch that has come to this stage, with what was done for it. -/
def life (st : Stage) (ds : List Deed) : Life := ⟨st.result?, ds⟩

theorem Holds.lived {config : Config} {total : Nat} {b : Batch} {st : Stage} {ds : List Deed}
    (holds : st.Holds config total b ds) (hfinal : st.isFinal = true) :
    b.Lived config total (st.life ds) := by
  cases holds with
  | settled fate => exact fate
  | skipped => rfl
  | _ => simp [isFinal] at hfinal

end Stage

namespace Pool

/-- The failure that is gathered is that of the first batch that has failed. -/
theorem findSome?_of_gather_eq_error {e : Failure} :
    ∀ (stages : List Stage) (result : RunResult), gather stages result = .error e →
      stages.findSome? (fun st => (st.life []).failure?) = some e
  | [], result, h => by simp [gather] at h
  | st :: stages, result, h => by
    rw [List.findSome?_cons]
    cases st with
    | settled r =>
      rcases r with e' | issues
      · exact congrArg some (Except.error.inj h)
      · exact findSome?_of_gather_eq_error stages _ h
    | _ => exact findSome?_of_gather_eq_error stages _ h

/-- With a result no batch has failed. -/
theorem hasFailed_of_gather_eq_ok {r : RunResult} :
    ∀ (stages : List Stage) (result : RunResult), gather stages result = .ok r →
      ∀ st ∈ stages, st.hasFailed = false
  | [], result, h => by simp
  | st :: stages, result, h => by
    rw [List.forall_mem_cons]
    cases st with
    | settled r =>
      rcases r with e' | issues
      · simp [gather] at h
      · exact ⟨rfl, hasFailed_of_gather_eq_ok stages _ h⟩
    | _ => exact ⟨rfl, hasFailed_of_gather_eq_ok stages _ h⟩

/-- The result that is gathered from batches that have all been linted. -/
theorem gather_eq_ok {r : RunResult} :
    ∀ (stages : List Stage) (result : RunResult), (∀ st ∈ stages, st.succeeded = true) →
      gather stages result = .ok r → ∃ found : List (List Issue),
        stages.map Stage.result? = found.map (fun issues => some (.ok issues)) ∧
          r = ⟨result.issues ++ found.flatten, result.batches + found.length⟩
  | [], result, _, h => ⟨[], rfl, by simpa [gather] using h.symm⟩
  | st :: stages, result, hall, h => by
    obtain ⟨hst, hrest⟩ := List.forall_mem_cons.mp hall
    rcases st with _ | _ | _ | _ | _ | _ | _ | (e | issues) | _
    case settled.ok =>
      obtain ⟨found, hfound, rfl⟩ := gather_eq_ok stages _ hrest h
      refine ⟨issues :: found, by simp [hfound, Stage.result?], ?_⟩
      simp only [RunResult.push, List.flatten_cons, List.append_assoc, List.length_cons,
        RunResult.mk.injEq, true_and]
      omega
    all_goals simp [Stage.succeeded] at hst

/-- The lives of the batches of a pool with a history. -/
def lives (p : Pool ρ τ) (h : History) : List Life := p.stages.mapIdx fun i st => st.life (h.of i)

theorem map_lives {α : Type} {f : Life → α} {g : Stage → α} (p : Pool ρ τ) (h : History)
    (hfg : ∀ st ds, f (st.life ds) = g st) : (p.lives h).map f = p.stages.map g := by
  apply List.ext_getElem <;> simp [lives, hfg]

theorem findSome?_lives (p : Pool ρ τ) (h : History) :
    (p.lives h).findSome? Life.failure? =
      p.stages.findSome? fun st => (st.life []).failure? := by
  have hmap := map_lives (f := Life.failure?) (g := fun st => (st.life []).failure?) p h
    fun _ _ => rfl
  simpa [List.findSome?_map, Function.comp_def] using congrArg (List.findSome? id) hmap

theorem countP_lives (p : Pool ρ τ) (h : History) :
    (p.lives h).countP Life.succeeded = p.stages.countP Stage.succeeded := by
  have hmap := map_lives (f := Life.succeeded) (g := Stage.succeeded) p h fun st _ => by
    rcases st with _ | _ | _ | _ | _ | _ | _ | (e | issues) | _ <;> rfl
  simpa [List.countP_map, Function.comp_def] using congrArg (List.countP id) hmap

variable {x : Executor ρ τ} {config : Config} {batches : List Batch} {s : Session ρ τ}
  {p : Pool ρ τ} {h : History}

theorem Sound.lived (sound : Sound x config batches s p h)
    (hfinal : ∀ st ∈ p.stages, st.isFinal = true) :
    List.Forall₂ (Batch.Lived config batches.length) batches (p.lives h) := by
  rw [List.forall₂_iff_get]
  refine ⟨by rw [lives, List.length_mapIdx, sound.length_eq], fun i hb hl => ?_⟩
  have hi : i < p.stages.length := sound.length_eq ▸ hb
  have hlived := (sound.holds i _ _ (List.getElem?_eq_getElem hb)
    (List.getElem?_eq_getElem hi)).lived (hfinal _ (List.getElem_mem hi))
  simpa [lives] using hlived

theorem Sound.deeds_eq (sound : Sound x config batches s p h) (i : Nat) :
    h.of i = ((p.lives h).map Life.deeds).getD i [] := by
  by_cases hi : i < p.stages.length
  · simp [lives, hi, Stage.life]
  · have hout : batches[i]? = none := by
      rw [List.getElem?_eq_none_iff, ← sound.length_eq]
      exact Nat.not_lt.mp hi
    rw [sound.ours i hout]
    simp [lives, hi]

/-- If no batch has failed, none was skipped either, so all of them have been linted. -/
theorem Sound.succeeded (sound : Sound x config batches s p h)
    (hfinal : ∀ st ∈ p.stages, st.isFinal = true)
    (hfailed : ∀ st ∈ p.stages, st.hasFailed = false) :
    ∀ st ∈ p.stages, st.succeeded = true := by
  intro st hst
  have hskipped : Stage.skipped ∉ p.stages := by
    intro hmem
    obtain ⟨st', hmem', hst'⟩ := sound.marked (sound.skipped hmem)
    exact absurd ((hfailed st' hmem').symm.trans hst') (by simp)
  have hf := hfinal st hst
  have hn := hfailed st hst
  rcases st with _ | _ | _ | _ | _ | _ | _ | (e | issues) | _
  case settled.ok => rfl
  case settled.error => simp [Stage.hasFailed] at hn
  case skipped => exact absurd hst hskipped
  all_goals simp [Stage.isFinal] at hf

/-- A run does not tell of more batches than have been linted. -/
theorem Sound.cancelled_le (sound : Sound x config batches s p h) {completed : Nat}
    (hgather : gather p.stages {} = .error (.cancelled completed)) :
    completed ≤ p.stages.countP Stage.succeeded := by
  obtain ⟨st, hst, hfailure⟩ :=
    List.exists_of_findSome?_eq_some (findSome?_of_gather_eq_error _ _ hgather)
  refine Nat.le_trans (sound.seen_le st hst completed ?_) sound.completed_le
  rcases st with _ | _ | _ | _ | _ | _ | _ | (e | issues) | _
  case settled.error =>
    obtain rfl : e = .cancelled completed := Option.some.inj hfailure
    rfl
  all_goals simp [Stage.life, Stage.result?, Life.failure?] at hfailure

theorem cancel_not_mem_remaining (p : Pool ρ τ) : Move.cancel ∉ p.remaining := by
  simp [remaining, finishing]

end Pool

namespace Executor

variable {x : Executor ρ τ} {config : Config} {s : Session ρ τ}

/-- After a whole run the work on every batch is over, and the pool goes with a history. -/
theorem runPool_sound {batches : List Batch} (hv : config.Valid)
    (hne : ∀ b ∈ batches, b.files ≠ []) (x : Executor ρ τ) (schedule : Schedule)
    (s : Session ρ τ) : ∃ history,
      Pool.Sound x config batches s (x.runPool config schedule batches s) history ∧
      (∀ st ∈ (x.runPool config schedule batches s).stages, st.isFinal = true) ∧
      (Move.cancel ∉ schedule → Event.cancel ∉ history) := by
  obtain ⟨h, sound, calm⟩ := Pool.Sound.follow hv hne (workers config) schedule _ _
    (Pool.sound_start x config batches s)
  have hworkers : 0 < workers config := Nat.lt_of_lt_of_le Nat.one_pos (Nat.le_max_right _ _)
  have hfinal := Pool.isFinal_follow_remaining (x := x) hv hne hworkers sound.length_eq
  obtain ⟨more, sound', calm'⟩ := sound.follow hv hne (workers config) (Pool.remaining _)
  refine ⟨_, sound', hfinal, fun hmem => ?_⟩
  rw [List.mem_append, not_or]
  exact ⟨calm hmem, calm' (Pool.cancel_not_mem_remaining _)⟩

theorem executeParallel_eq {files : List Path} (h : checkInputs config files = .ok ())
    (x : Executor ρ τ) (schedule : Schedule) (s : Session ρ τ) :
    x.executeParallel config files (.atWork schedule) s =
      (Pool.gather (x.runPool config schedule (Plan.batches config files) s).stages {},
        (x.runPool config schedule (Plan.batches config files) s).session) := by
  rw [executeParallel, planChecked_eq_ok h]

/-- A run with several workers accounts for its batches, whatever the schedule. A run that tells of
a cancellation has linted as many batches as it tells, and nobody cancels but the schedule and the
runner. -/
theorem executeParallel_accounts {files : List Path} (h : checkInputs config files = .ok ())
    (x : Executor ρ τ) (schedule : Schedule) (s : Session ρ τ) : ∃ history lives,
      Accounts x config files s (x.executeParallel config files (.atWork schedule) s).2
        (x.executeParallel config files (.atWork schedule) s).1 (Plan.batches config files) history
        lives ∧
      (∀ completed,
        (x.executeParallel config files (.atWork schedule) s).1 = .error (.cancelled completed) →
          completed ≤ lives.countP Life.succeeded) ∧
      (Move.cancel ∉ schedule → Event.cancel ∉ history) := by
  have hv := valid_of_checkInputs h
  obtain ⟨history, sound, hfinal, calm⟩ :=
    runPool_sound hv (Plan.isGreedy_batches config files).nonempty x schedule s
  rw [executeParallel_eq h]
  generalize x.runPool config schedule (Plan.batches config files) s = p at sound hfinal ⊢
  refine ⟨history, p.lives history, ⟨plan_eq_ok hv files, sound.leads, sound.leads.record.1,
    sound.leads.record.2, sound.lived hfinal, sound.deeds_eq, ?_, ?_⟩, ?_, calm⟩
  · intro r hr
    have hall := sound.succeeded hfinal (Pool.hasFailed_of_gather_eq_ok _ _ hr)
    obtain ⟨found, hfound, hr⟩ := Pool.gather_eq_ok _ _ hall hr
    refine ⟨found, ?_, by simpa using hr⟩
    rw [Pool.map_lives p history fun _ _ => rfl]
    exact hfound
  · intro e he
    rw [Pool.findSome?_lives]
    exact Pool.findSome?_of_gather_eq_error _ _ he
  · intro completed hc
    rw [Pool.countP_lives]
    exact sound.cancelled_le hc

/-! ## Runs of either kind -/

/-- How a run goes about its batches. -/
inductive Mode where
  /-- One batch after the other. -/
  | inTurn
  /-- With workers. -/
  | pooled (crew : Crew)

/-- The way that a configuration asks for. -/
def Mode.ofJobs (config : Config) (crew : Crew) : Mode :=
  if 1 < config.jobs then .pooled crew else .inTurn

/-- Why a run cannot get to its first batch: its workers cannot be started. -/
def Mode.obstacle? : Mode → Option String
  | .pooled (.unavailable reason) => some reason
  | _ => none

/-- Lints the files. -/
def lint (x : Executor ρ τ) (mode : Mode) (config : Config) (files : List Path)
    (s : Session ρ τ) : Except Failure RunResult × Session ρ τ :=
  match mode with
  | .inTurn => x.execute config files s
  | .pooled crew => x.executeParallel config files crew s

theorem Mode.obstacle?_ofJobs_eq_some {crew : Crew} {reason : String} :
    (Mode.ofJobs config crew).obstacle? = some reason ↔
      1 < config.jobs ∧ crew = .unavailable reason := by
  unfold ofJobs
  by_cases hjobs : 1 < config.jobs
  · cases crew <;> simp [hjobs, obstacle?]
  · simp [hjobs, obstacle?]

theorem run_eq_lint (x : Executor ρ τ) (config : Config) (files : List Path) (crew : Crew)
    (s : Session ρ τ) :
    x.run config files crew s = x.lint (.ofJobs config crew) config files s := by
  unfold run Mode.ofJobs
  split <;> rfl

/-- Inputs that are refused leave everything as it is. -/
theorem lint_of_checkInputs_eq_error {files : List Path} {e : Failure}
    (h : checkInputs config files = .error e) (x : Executor ρ τ) (mode : Mode)
    (s : Session ρ τ) : x.lint mode config files s = (.error e, s) := by
  cases mode <;> simp [lint, execute, executeParallel, planChecked, h]

/-- So do workers that cannot be started. -/
theorem lint_of_obstacle {mode : Mode} {files : List Path} {reason : String}
    (hobstacle : mode.obstacle? = some reason) (h : checkInputs config files = .ok ())
    (x : Executor ρ τ) (s : Session ρ τ) :
    x.lint mode config files s = (.error (.io (.other reason)), s) := by
  rcases mode with _ | schedule | reason'
  case pooled.unavailable =>
    obtain rfl : reason' = reason := Option.some.inj hobstacle
    rw [lint, executeParallel, planChecked_eq_ok h]
  all_goals simp [Mode.obstacle?] at hobstacle

/-- A run fails and leaves everything as it is, or it gets to its batches. -/
theorem lint_cases (x : Executor ρ τ) (mode : Mode) (config : Config) (files : List Path)
    (s : Session ρ τ) : (∃ e, x.lint mode config files s = (.error e, s)) ∨
      mode.obstacle? = none ∧ checkInputs config files = .ok () := by
  cases hcheck : checkInputs config files with
  | error e => exact Or.inl ⟨e, lint_of_checkInputs_eq_error hcheck x mode s⟩
  | ok u =>
    cases hobstacle : mode.obstacle? with
    | none => exact Or.inr ⟨rfl, rfl⟩
    | some reason => exact Or.inl ⟨_, lint_of_obstacle hobstacle hcheck x s⟩

/-- A run that gets to its batches accounts for them. -/
theorem lint_accounts {mode : Mode} {files : List Path} (hobstacle : mode.obstacle? = none)
    (h : checkInputs config files = .ok ()) (x : Executor ρ τ) (s : Session ρ τ) :
    ∃ history lives,
      Accounts x config files s (x.lint mode config files s).2 (x.lint mode config files s).1
        (Plan.batches config files) history lives ∧
      (mode = .inTurn → history = History.inTurn 0 (lives.map Life.deeds)) := by
  rcases mode with _ | schedule | reason
  case inTurn =>
    obtain ⟨lives, a⟩ := execute_accounts h x s
    exact ⟨_, lives, a, fun _ => rfl⟩
  case pooled.atWork =>
    obtain ⟨history, lives, a, -⟩ := executeParallel_accounts h x schedule s
    exact ⟨history, lives, a, by simp⟩
  case pooled.unavailable => simp [Mode.obstacle?] at hobstacle

/-! ## What a run tells its caller -/

/-- What a run with several workers from the session `s` to the session `s'` lets its caller
know. -/
structure Discloses (x : Executor ρ τ) (config : Config) (files : List Path) (s s' : Session ρ τ)
    (result : Except Failure RunResult) (batches : List Batch) (history : History)
    (lives : List Life) : Prop extends
    Accounts x config files s s' result batches history lives where
  /-- With a result every batch of the plan has been linted, so none was left out. -/
  complete : ∀ r, result = .ok r → ∀ l ∈ lives, l.succeeded = true
  /-- A failure is that of the first batch that was not left out and not linted either. -/
  first : ∀ e, result = .error e → ∃ i b l, batches[i]? = some b ∧ lives[i]? = some l ∧
    l.failure? = some e ∧ (∀ j < i, ∀ l', lives[j]? = some l' → l'.failure? = none) ∧
      ((∃ cause, e = .batch i batches.length b.files.length cause) ∨
        ∃ completed, e = .cancelled completed)
  /-- For a batch that was left out no output file was asked for and nothing was run. -/
  idle : ∀ i l, lives[i]? = some l → l.result = none → history.of i = []
  /-- A run that was cancelled has linted as many batches as it tells. -/
  cancelled_le : ∀ completed, result = .error (.cancelled completed) →
    completed ≤ lives.countP Life.succeeded

/-- A run with several workers hides no batch that failed or was left out, whatever the schedule,
whichever batches fail, and whenever the run is cancelled. -/
theorem executeParallel_discloses {files : List Path} (hv : config.Valid)
    (hfiles : ∀ f ∈ files, f.isBlank = false) (x : Executor ρ τ) (schedule : Schedule)
    (s : Session ρ τ) : ∃ batches history lives,
      Discloses x config files s (x.executeParallel config files (.atWork schedule) s).2
        (x.executeParallel config files (.atWork schedule) s).1 batches history lives := by
  obtain ⟨history, lives, a, hcancelled, -⟩ :=
    executeParallel_accounts (checkInputs_eq_ok hv hfiles) x schedule s
  refine ⟨_, history, lives,
    { a with complete := ?_, first := ?_, idle := ?_, cancelled_le := hcancelled }⟩
  · intro r hr l hl
    obtain ⟨issues, hissues⟩ := a.result_eq_some_ok hr l hl
    simp [Life.succeeded, hissues]
  · intro e he
    obtain ⟨before, l, after, hlives, hl, hbefore⟩ :=
      List.findSome?_eq_some_iff.mp (a.failed e he)
    have hget : lives[before.length]? = some l := by simp [hlives]
    obtain ⟨b, hb, hindex, -, hlived⟩ := a.exists_lived hget
    refine ⟨before.length, b, l, hb, hget, hl, ?_, ?_⟩
    · intro j hj l' hl'
      rw [hlives, List.getElem?_append_left hj] at hl'
      exact hbefore l' (List.mem_of_getElem? hl')
    · rw [Batch.Lived, Life.result_of_failure?_eq hl] at hlived
      rw [← hindex]
      exact hlived.error_cases.symm
  · intro i l hl hnone
    obtain ⟨b, -, -, hdeeds, hlived⟩ := a.exists_lived hl
    rw [Batch.Lived, hnone] at hlived
    exact hdeeds.trans hlived

/-- A configuration like `Plan.narrow` for two workers. -/
def paired : Config := { Plan.narrow with jobs := 2 }

/-- The second batch is linted first, and then the run is cancelled before the first one. -/
def overtaken : Schedule := List.replicate 7 (.advance 1) ++ [.cancel]

/-- Two batches, of which one is linted. -/
theorem executeParallel_overtaken_discloses :
    paired.Valid ∧ (∀ f ∈ [[97], [98], [99]], Bytes.isBlank f = false) ∧
      ({ tellsOnce with cancellable := true }.executeParallel paired [[97], [98], [99]]
        (.atWork overtaken) .fresh).1 = .error (.cancelled 1) ∧
      ∃ batches history lives,
        Discloses { tellsOnce with cancellable := true } paired [[97], [98], [99]] .fresh
          ({ tellsOnce with cancellable := true }.executeParallel paired [[97], [98], [99]]
            (.atWork overtaken) .fresh).2
          ({ tellsOnce with cancellable := true }.executeParallel paired [[97], [98], [99]]
            (.atWork overtaken) .fresh).1 batches history lives := by
  have hv : paired.Valid := by decide
  have hfiles : ∀ f ∈ [[97], [98], [99]], Bytes.isBlank f = false := by decide +kernel
  exact ⟨hv, hfiles, by decide +kernel, executeParallel_discloses hv hfiles _ overtaken .fresh⟩

end Executor

end LintDispatch
