import LintDispatch.Proofs.Plan.Greedy
import LintDispatch.Proofs.Run.Round

/-!
# Runs, batch after batch
`Executor.Rounds` is a succession of rounds, each of them from the session that the one before has
left and none of them begun after a cancellation. A run goes through accepted rounds for the first
batches of its plan and then ends in one of three ways (`Executor.Ends`): there are no more batches,
the run has been cancelled, or the next batch fails. `runBatches_ends` is the induction over the
batches; what a run has asked for is then read off its rounds (`Rounds.record`).

`execute_ok_covers` says what a result stands for: one accepted round for each batch of the plan, so
every file has been linted once, and the issues are those of the reports in order.
`execute_error_stops` says what a failure stands for: accepted rounds for the batches before it, the
first thing that went wrong in its own batch, and nothing after that.
-/

namespace LintDispatch.Executor

variable {ρ τ : Type} {x : Executor ρ τ} {config : Config} {s s' : Session ρ τ}

/-- How a run of `total` batches goes on once the result of a batch is there. -/
def goOn (x : Executor ρ τ) (config : Config) (total : Nat) (rest : List Batch)
    (result : RunResult) :
    Except Failure (List Issue) × Session ρ τ → Except Failure RunResult × Session ρ τ
  | (.error e, s) => (.error e, s)
  | (.ok issues, s) => x.runBatches config total rest (result.push issues) s

theorem runBatches_cons (x : Executor ρ τ) (config : Config) (total : Nat) (b : Batch)
    (rest : List Batch) (result : RunResult) (s : Session ρ τ) :
    x.runBatches config total (b :: rest) result s =
      x.goOn config total rest result (x.runBatch config b total result.batches s) := by
  rw [runBatches]
  rcases x.runBatch config b total result.batches s with ⟨_ | _, _⟩ <;> rfl

/-- The rounds follow one another, each of them begun while the run had not been cancelled. -/
inductive Rounds (x : Executor ρ τ) (config : Config) :
    Session ρ τ → List Round → Session ρ τ → Prop
  | nil (s : Session ρ τ) : Rounds x config s [] s
  | cons {s s₁ s' : Session ρ τ} {r : Round} {rs : List Round} (going : x.stopped s = false)
      (performs : Performs x config s r s₁) (rest : Rounds x config s₁ rs s') :
      Rounds x config s (r :: rs) s'

/-- The rounds have asked for one output file each, and have called the runner once each. -/
theorem Rounds.record {rs : List Round} (h : Rounds x config s rs s') :
    s'.requests = s.requests + rs.length ∧ s'.calls = s.calls ++ rs.map (Round.call config) := by
  induction h with
  | nil s => simp
  | cons _ performs _ ih =>
    obtain ⟨hr, hc⟩ := performs.record
    refine ⟨?_, ?_⟩
    · rw [ih.1, hr, List.length_cons]
      omega
    · rw [ih.2, hc, List.map_cons, List.append_assoc]
      rfl

/-- How the rest of a run ends that had `result` when it came to these batches. -/
inductive Ends (x : Executor ρ τ) (config : Config) (total : Nat) (result : RunResult)
    (batches : List Batch) (s : Session ρ τ) : Except Failure RunResult → Session ρ τ → Prop
  /-- All batches have been linted. -/
  | completed {rs : List Round} {s' : Session ρ τ} (rounds : Rounds x config s rs s')
      (accepted : ∀ r ∈ rs, r.Accepted) (batches_eq : rs.map Round.batch = batches) :
      Ends x config total result batches s
        (.ok ⟨result.issues ++ rs.flatMap Round.issues, result.batches + rs.length⟩) s'
  /-- The run has been cancelled before a batch. -/
  | cancelled {rs : List Round} {b : Batch} {rest : List Batch} {s' : Session ρ τ}
      (rounds : Rounds x config s rs s') (accepted : ∀ r ∈ rs, r.Accepted)
      (batches_eq : rs.map Round.batch ++ b :: rest = batches) (stopped : x.stopped s' = true) :
      Ends x config total result batches s (.error (.cancelled (result.batches + rs.length))) s'
  /-- A batch has failed. -/
  | failed {rs : List Round} {b : Batch} {rest : List Batch} {calls : List Call} {e : Failure}
      {s₁ s' : Session ρ τ} (rounds : Rounds x config s rs s₁)
      (accepted : ∀ r ∈ rs, r.Accepted) (batches_eq : rs.map Round.batch ++ b :: rest = batches)
      (going : x.stopped s₁ = false) (fails : Fails x config b s₁ calls e s') :
      Ends x config total result batches s (.error (.batch b.index total b.files.length e)) s'

/-- A run that begins with an accepted round ends as its rest does. -/
theorem Ends.cons {total : Nat} {result : RunResult} {r : Round} {batches : List Batch}
    {s₁ : Session ρ τ} {outcome : Except Failure RunResult} (going : x.stopped s = false)
    (performs : Performs x config s r s₁) (accepted : r.Accepted)
    (h : Ends x config total (result.push r.issues) batches s₁ outcome s') :
    Ends x config total result (r.batch :: batches) s outcome s' := by
  cases h with
  | @completed rs _ rounds hacc heq =>
    have hres : (result.push r.issues).issues ++ rs.flatMap Round.issues =
        result.issues ++ (r :: rs).flatMap Round.issues := by
      simp [RunResult.push]
    have hlen : (result.push r.issues).batches + rs.length = result.batches + (r :: rs).length := by
      simp only [RunResult.push, List.length_cons]
      omega
    rw [hres, hlen]
    exact .completed (.cons going performs rounds) (List.forall_mem_cons.mpr ⟨accepted, hacc⟩)
      (by rw [List.map_cons, heq])
  | @cancelled rs b rest _ rounds hacc heq stopped =>
    have hlen : (result.push r.issues).batches + rs.length = result.batches + (r :: rs).length := by
      simp only [RunResult.push, List.length_cons]
      omega
    rw [hlen]
    exact .cancelled (.cons going performs rounds) (List.forall_mem_cons.mpr ⟨accepted, hacc⟩)
      (by rw [List.map_cons, List.cons_append, heq]) stopped
  | failed rounds hacc heq hgoing fails =>
    exact .failed (.cons going performs rounds) (List.forall_mem_cons.mpr ⟨accepted, hacc⟩)
      (by rw [List.map_cons, List.cons_append, heq]) hgoing fails

theorem runBatches_ends (hv : config.Valid) (x : Executor ρ τ) (total : Nat) :
    ∀ (batches : List Batch) (result : RunResult) (s : Session ρ τ),
      (∀ b ∈ batches, b.files ≠ []) →
      Ends x config total result batches s (x.runBatches config total batches result s).1
        (x.runBatches config total batches result s).2
  | [], result, s, _ => by
    have h : Ends x config total result [] s _ s := .completed (.nil s) (by simp) rfl
    simpa [runBatches] using h
  | b :: batches, result, s, hne => by
    rw [runBatches, runBatch]
    by_cases hstop : x.stopped s = true
    · rw [if_pos hstop]
      exact .cancelled (.nil s) (by simp) rfl hstop
    have hgoing : x.stopped s = false := by simpa using hstop
    rw [if_neg hstop]
    rcases lintBatch_cases hv (hne b (by simp)) x s with
      ⟨r, s₁, rfl, performs, accepted, hlint⟩ | ⟨calls, e, s₁, fails, hlint⟩
    · rw [hlint]
      exact (runBatches_ends hv x total batches (result.push r.issues) s₁
        fun c hc => hne c (by simp [hc])).cons hgoing performs accepted
    · rw [hlint]
      exact .failed (.nil s) (by simp) rfl hgoing fails

theorem checkInputs_eq_ok_iff {files : List Path} :
    checkInputs config files = .ok () ↔ config.Valid ∧ ∀ f ∈ files, f.isBlank = false := by
  rw [← Config.check_eq_ok_iff, checkInputs]
  cases config.check with
  | error e => simp
  | ok u =>
    have hblank : files.findIdx? Bytes.isBlank = none ↔ ∀ f ∈ files, f.isBlank = false :=
      List.findIdx?_eq_none_iff
    cases hf : files.findIdx? Bytes.isBlank with
    | none => simpa using hblank.mp hf
    | some i => simp [← hblank, hf]

theorem valid_of_checkInputs {files : List Path} (h : checkInputs config files = .ok ()) :
    config.Valid :=
  (checkInputs_eq_ok_iff.mp h).1

theorem checkInputs_eq_ok {files : List Path} (hv : config.Valid)
    (hfiles : ∀ f ∈ files, f.isBlank = false) : checkInputs config files = .ok () :=
  checkInputs_eq_ok_iff.mpr ⟨hv, hfiles⟩

/-- Inputs that are not usable are an invalid argument. -/
theorem exists_of_checkInputs_eq_error {files : List Path} {e : Failure}
    (h : checkInputs config files = .error e) : ∃ text, e = .invalidArgument text := by
  unfold checkInputs at h
  cases hc : config.check with
  | error e' =>
    rw [hc] at h
    exact ⟨_, (Except.error.inj h).symm⟩
  | ok u =>
    rw [hc] at h
    cases hf : files.findIdx? Bytes.isBlank with
    | some i =>
      rw [hf] at h
      exact ⟨_, (Except.error.inj h).symm⟩
    | none => simp [hf] at h

theorem planChecked_eq_ok {files : List Path} (h : checkInputs config files = .ok ()) :
    planChecked config files = .ok (Plan.batches config files) := by
  rw [planChecked, h]
  exact plan_eq_ok (valid_of_checkInputs h) files

theorem execute_eq_runBatches {files : List Path} (h : checkInputs config files = .ok ())
    (x : Executor ρ τ) (s : Session ρ τ) :
    x.execute config files s = x.runBatches config (Plan.batches config files).length
      (Plan.batches config files) {} s := by
  rw [execute, planChecked_eq_ok h]

/-- A run with usable inputs goes through the batches of its plan. -/
theorem execute_ends {files : List Path} (h : checkInputs config files = .ok ())
    (x : Executor ρ τ) (s : Session ρ τ) :
    plan config files = .ok (Plan.batches config files) ∧
      Ends x config (Plan.batches config files).length {} (Plan.batches config files) s
        (x.execute config files s).1 (x.execute config files s).2 := by
  have hv := valid_of_checkInputs h
  refine ⟨plan_eq_ok hv files, ?_⟩
  rw [execute_eq_runBatches h]
  exact runBatches_ends hv x _ _ _ s (Plan.isGreedy_batches config files).nonempty

theorem checkInputs_of_execute_eq_ok {files : List Path} {result : RunResult}
    (h : (x.execute config files s).1 = .ok result) : checkInputs config files = .ok () := by
  rw [execute, planChecked] at h
  cases hc : checkInputs config files with
  | ok u => rfl
  | error e => simp [hc] at h

/-! ## Results -/

/-- What the result of a run from the session `s` stands for: rounds for all batches of the plan. -/
structure Covers (x : Executor ρ τ) (config : Config) (files : List Path) (s s' : Session ρ τ)
    (result : RunResult) (batches : List Batch) (rounds : List Round) : Prop where
  plan_eq : plan config files = .ok batches
  follows : Rounds x config s rounds s'
  /-- The runner has been called once for each round. -/
  calls_eq : s'.calls = s.calls ++ rounds.map (Round.call config)
  /-- The calls are for the batches of the plan, with the time their files are allowed. -/
  args_eq :
    (rounds.map (Round.call config)).map (fun c => (c.command.fileArgs config, c.deadline)) =
      batches.map fun b => (b.files, config.deadline b.files.length)
  /-- The files of the calls are the files of the run. -/
  files_eq : (rounds.map (Round.call config)).flatMap (fun c => c.command.fileArgs config) = files
  /-- Each process ended well without a report, or it left one that can be read. -/
  accepted : ∀ r ∈ rounds, r.Silent ∧ r.issues = [] ∨ r.Told
  issues_eq : result.issues = rounds.flatMap Round.issues
  batches_eq : result.batches = batches.length

/-- The files of the calls are those of the batches. -/
theorem flatMap_fileArgs_rounds (config : Config) (rs : List Round) :
    (rs.map (Round.call config)).flatMap (fun c => c.command.fileArgs config) =
      (rs.map Round.batch).flatMap Batch.files := by
  rw [List.flatMap_map, List.flatMap_map]
  exact congrArg (fun f => rs.flatMap f)
    (funext fun r => Command.fileArgs_ofBatch config r.output r.batch.files)

/-- A run with a result has linted every batch of its plan once and in order and nothing else, and
its issues are those of the reports. -/
theorem execute_ok_covers {files : List Path} {result : RunResult}
    (h : (x.execute config files s).1 = .ok result) :
    ∃ batches rounds,
      Covers x config files s (x.execute config files s).2 result batches rounds := by
  obtain ⟨hplan, hends⟩ := execute_ends (checkInputs_of_execute_eq_ok h) x s
  rw [h] at hends
  generalize hres : Except.ok result = outcome at hends
  cases hends with
  | cancelled => simp at hres
  | failed => simp at hres
  | @completed rs _ rounds accepted heq =>
    obtain rfl : result = _ := Except.ok.inj hres
    have hargs : ∀ r : Round, ((r.call config).command).fileArgs config = r.batch.files :=
      fun r => Command.fileArgs_ofBatch config r.output r.batch.files
    refine ⟨_, rs, hplan, rounds, rounds.record.2, ?_, ?_, ?_, ?_, ?_⟩
    · rw [← heq, List.map_map, List.map_map]
      exact List.map_congr_left fun r _ => Prod.ext (hargs r) rfl
    · rw [flatMap_fileArgs_rounds, heq]
      exact (Plan.isGreedy_batches config files).files
    · intro r hr
      exact (accepted r hr).imp_left fun hs => ⟨hs, hs.issues_eq_nil⟩
    · simp
    · rw [← heq]
      simp

/-- The first process fails after it has reported a message, and the second one has nothing to
report. -/
def tellsOnce : Executor Nat TempFiles where
  runner := .scripted fun
    | 0 => ({ exitCode := some 1 }, some (Bytes.ofString
        "[\x7b\"filePath\":\"a\",\"messages\":[\x7b\"message\":\"m\",\"severity\":1\x7d]\x7d]"))
    | _ => ({ exitCode := some 0 }, none)
  provider := TempFiles.provider

/-- Three files in two batches, with a report on the first of them. -/
theorem execute_tellsOnce_covers :
    (tellsOnce.execute Plan.narrow [[97], [98], [99]] .fresh).1 =
        .ok ⟨[{ path := [97], severity := .warning, message := "m", line := 1, column := 1 }], 2⟩ ∧
      ∃ batches rounds, Covers tellsOnce Plan.narrow [[97], [98], [99]] .fresh
        (tellsOnce.execute Plan.narrow [[97], [98], [99]] .fresh).2
        ⟨[{ path := [97], severity := .warning, message := "m", line := 1, column := 1 }], 2⟩
        batches rounds :=
  ⟨by decide +kernel, execute_ok_covers (by decide +kernel)⟩

/-! ## Failures -/

/-- What the failure of a run in its batch `k` stands for: accepted rounds for the batches before,
and then a batch that failed from the session `s₁` with this cause, after the calls named. -/
structure StopsAt (x : Executor ρ τ) (config : Config) (files : List Path) (s s' : Session ρ τ)
    (k total count : Nat) (cause : Failure) (batches : List Batch) (batch : Batch)
    (rounds : List Round) (s₁ : Session ρ τ) (calls : List Call) : Prop where
  plan_eq : plan config files = .ok batches
  total_eq : batches.length = total
  lt : k < total
  batch_eq : batches[k]? = some batch
  count_eq : batch.files.length = count
  follows : Rounds x config s rounds s₁
  before : rounds.map Round.batch = batches.take k
  accepted : ∀ r ∈ rounds, r.Silent ∨ r.Told
  fails : Fails x config batch s₁ calls cause s'
  /-- An output file has been asked for in each round and for the batch itself. -/
  requests_eq : s'.requests = s.requests + (k + 1)
  /-- The runner has been called in each round, and for the batch unless its command was withheld:
  then there was no output file, or its path was too long. -/
  calls_eq : s'.calls = s.calls ++ (rounds.map (Round.call config) ++ calls)
  called : (rounds.map (Round.call config) ++ calls).length =
    if x.withholds config batch s₁ then k else k + 1

/-- A run that fails in a batch stops there, and the failure tells which batch it was and what went
wrong first. Apart from that a run with usable inputs fails only because it was cancelled. -/
theorem execute_error_stops {files : List Path} (h : checkInputs config files = .ok ())
    (x : Executor ρ τ) (s : Session ρ τ) :
    (∀ k total count cause,
      (x.execute config files s).1 = .error (.batch k total count cause) →
      ∃ batches batch rounds s₁ calls, StopsAt x config files s (x.execute config files s).2
        k total count cause batches batch rounds s₁ calls) ∧
    ∀ e, (x.execute config files s).1 = .error e →
      (∃ k total count cause, e = .batch k total count cause) ∨
        ∃ completed, e = .cancelled completed := by
  obtain ⟨hplan, hends⟩ := execute_ends h x s
  generalize houtcome : (x.execute config files s).1 = outcome at hends ⊢
  generalize (x.execute config files s).2 = s' at hends ⊢
  cases hends with
  | completed => simp
  | cancelled => simp
  | @failed rs b rest calls e s₁ _ rounds accepted heq going fails =>
    refine ⟨?_, fun e he => Or.inl ⟨_, _, _, _, (Except.error.inj he).symm⟩⟩
    intro k total count cause hk
    obtain ⟨hindex, rfl, rfl, rfl⟩ : b.index = k ∧ _ = total ∧ _ = count ∧ e = cause := by
      simpa using hk
    have hlen : (rs.map Round.batch).length = rs.length := List.length_map _
    have hlt : rs.length < (Plan.batches config files).length := by
      rw [← heq, List.length_append, hlen, List.length_cons]
      omega
    have hget : (Plan.batches config files)[rs.length]? = some b := by
      rw [← heq, ← hlen, List.getElem?_append_right (Nat.le_refl _), Nat.sub_self,
        List.getElem?_cons_zero]
    -- the plan counts its batches, so the index told is the number of rounds before
    obtain rfl : k = rs.length := by
      rw [← hindex, ← (Plan.isGreedy_batches config files).index rs.length hlt,
        (List.getElem?_eq_some_iff.mp hget).2]
    obtain ⟨hreq, hcalls, hcount⟩ := fails.record
    refine ⟨_, b, rs, s₁, calls, hplan, rfl, hlt, hget, rfl, rounds, ?_, accepted, fails,
      ?_, ?_, ?_⟩
    · rw [← heq, ← hlen, List.take_left]
    · rw [hreq, rounds.record.1, Nat.add_assoc]
    · rw [hcalls, rounds.record.2, List.append_assoc]
    · rw [List.length_append, List.length_map, hcount]
      split <;> rfl

/-- The first process has nothing to report, and the second one fails without a report. -/
def failsOnce : Executor Nat TempFiles where
  runner := .scripted fun
    | 0 => ({ exitCode := some 0 }, none)
    | _ => ({ exitCode := some 2, stderr := "no" }, none)
  provider := TempFiles.provider

/-- Three files in two batches, the second of which fails. -/
theorem execute_failsOnce_stops :
    checkInputs Plan.narrow [[97], [98], [99]] = .ok () ∧
      (failsOnce.execute Plan.narrow [[97], [98], [99]] .fresh).1 =
        .error (.batch 1 2 1 (.processFailed (some 2) "no")) ∧
      ∃ batches batch rounds s₁ calls, StopsAt failsOnce Plan.narrow [[97], [98], [99]] .fresh
        (failsOnce.execute Plan.narrow [[97], [98], [99]] .fresh).2
        1 2 1 (.processFailed (some 2) "no") batches batch rounds s₁ calls :=
  ⟨by decide +kernel, by decide +kernel,
    (execute_error_stops (by decide +kernel) failsOnce .fresh).1 1 2 1 _ (by decide +kernel)⟩

end LintDispatch.Executor
