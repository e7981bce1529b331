import LintDispatch.Proofs.Run.Repetition

/-!
# Cancelled runs
A run with a token looks at it before each batch, and nowhere else. So there are three things to say
of the runs that go batch after batch. Once the token is cancelled, no order does anything any more:
its inputs are still checked, a run without files still ends well, and every other run stops before
its first batch (`carryOut_of_cancelled`, and by induction over what happens `pursue_of_cancelled`).
If it is the call for a batch that cancels, that batch goes on to its end, and it is its own failure
or the next batch that the run ends with (`CutShort`); a run that comes to a batch goes on from
there (`Comes`), which is the induction over the batches. Without a token nothing depends on the
mark of a cancellation: sessions that differ in it alone still do so after every step (`marked`).
-/

namespace LintDispatch

variable {ρ τ : Type}

/-- The host with the mark of a cancellation, or without it. -/
def Host.marked (h : Host) (b : Bool) : Host := { h with cancelled := b }

/-- The session with the mark of a cancellation, or without it. -/
def Session.marked (s : Session ρ τ) (b : Bool) : Session ρ τ := { s with host := s.host.marked b }

theorem Session.marked_self {s : Session ρ τ} {b : Bool} (h : s.host.cancelled = b) :
    s.marked b = s := by
  subst h
  rfl

/-- Apart from the mark of a cancellation, which neither of them looks at, the runners do the
same. -/
def Runner.Alike (R R' : Runner ρ) : Prop :=
  ∀ command deadline r h b, ∃ b', R'.run command deadline r (h.marked b) =
    ((R.run command deadline r h).1, (R.run command deadline r h).2.1,
      (R.run command deadline r h).2.2.marked b')

/-! ## Calls that cancel -/

namespace Visit

variable {x : Executor ρ τ} {v : Visit ρ τ} {c : Call}

/-- A batch with a call has asked for one output file and has made that call, and the run is
cancelled after the batch if it was cancelled after the call. -/
theorem record_of_call (hv : v.config.Valid) (hb : v.batch.files ≠ []) (hc : v.call? x = some c) :
    (x.runBatch v.config v.batch v.total v.completed v.session).2.requests =
        v.session.requests + 1 ∧
      (x.runBatch v.config v.batch v.total v.completed v.session).2.calls =
        v.session.calls ++ [c] ∧
      (x.runBatch v.config v.batch v.total v.completed v.session).2.host.cancelled =
        (v.answered x c).2.host.cancelled := by
  rw [runBatch_of_call hv hb hc]
  exact ⟨rfl, rfl, rfl⟩

/-- A batch with a result has had a call. -/
theorem exists_call_of_ok (hv : v.config.Valid) (hb : v.batch.files ≠ [])
    {issues : List Issue} {s : Session ρ τ}
    (h : x.runBatch v.config v.batch v.total v.completed v.session = (.ok issues, s)) :
    ∃ c, v.call? x = some c := by
  cases hc : v.call? x with
  | some c => exact ⟨c, rfl⟩
  | none =>
    obtain ⟨e, s', -, heq⟩ := runBatch_of_no_call hv hb hc
    simp [h] at heq

/-- A call is only made while the run has not been cancelled. -/
theorem cancelled_eq_false (hx : x.cancellable = true) (hc : v.call? x = some c) :
    v.session.host.cancelled = false := by
  obtain ⟨o, ho, -, -⟩ := call?_eq_some.mp hc
  simpa [Executor.stopped, hx] using (output?_eq_some.mp ho).1

/-- A batch with a call ends as it does when nobody looks at cancellations. -/
theorem runBatch_eq (hc : v.call? x = some c) :
    x.runBatch v.config v.batch v.total v.completed v.session =
      (Executor.located v.batch v.total (x.lintBatch v.config v.batch v.session).1,
        (x.lintBatch v.config v.batch v.session).2) := by
  obtain ⟨o, ho, -, -⟩ := call?_eq_some.mp hc
  rw [Executor.runBatch, if_neg (by simp [(output?_eq_some.mp ho).1])]

end Visit

namespace Executor

variable {x x' : Executor ρ τ} {config : Config} {files : List Path} {s : Session ρ τ}
  {order : Order} {v : Visit ρ τ} {c : Call} {k : Nat}

/-- How a run that had `result` when it came to these batches comes to the visit at position `k`,
and how it goes on from there. -/
structure Comes (x : Executor ρ τ) (config : Config) (total : Nat) (batches : List Batch)
    (result : RunResult) (s : Session ρ τ) (k : Nat) (v : Visit ρ τ) : Prop where
  config_eq : v.config = config
  total_eq : v.total = total
  completed_eq : v.completed = result.batches + k
  batch_eq : batches[k]? = some v.batch
  /-- An output file has been asked for in each batch before. -/
  requests_eq : v.session.requests = s.requests + k
  /-- The runner has been called in each batch before. -/
  calls_eq : ∃ earlier, earlier.length = k ∧ v.session.calls = s.calls ++ earlier
  goes_on : ∃ found : RunResult, found.batches = v.completed ∧
    x.runBatches config total batches result s = x.goOn config total (batches.drop (k + 1)) found
      (x.runBatch config v.batch total v.completed v.session)

theorem comes_of_visitsOf (hv : config.Valid) {total : Nat} : ∀ {batches : List Batch}
    {result : RunResult} {s : Session ρ τ} {k : Nat}, (∀ b ∈ batches, b.files ≠ []) →
      (x.visitsOf config total batches result s)[k]? = some v →
      Comes x config total batches result s k v
  | [], _, _, _, _, h => by simp [visitsOf] at h
  | b :: batches, result, s, 0, _, h => by
    rw [visitsOf, List.getElem?_cons_zero] at h
    obtain rfl := Option.some.inj h
    exact ⟨rfl, rfl, rfl, rfl, rfl, ⟨[], rfl, (List.append_nil _).symm⟩, result, rfl,
      runBatches_cons ..⟩
  | b :: batches, result, s, k + 1, hne, h => by
    obtain ⟨hb, hne⟩ := List.forall_mem_cons.mp hne
    let w : Visit ρ τ := ⟨config, total, result.batches, b, s⟩
    rw [visitsOf, List.getElem?_cons_succ] at h
    rcases hstep : x.runBatch config b total result.batches s with ⟨e | issues, s₁⟩
    · simp [hstep] at h
    rw [hstep] at h
    obtain ⟨c, hc⟩ := w.exists_call_of_ok hv hb hstep
    obtain ⟨hrequests, hcalls, -⟩ := w.record_of_call hv hb hc
    simp only [w, hstep] at hrequests hcalls
    have comes := comes_of_visitsOf hv hne h
    obtain ⟨earlier, hlen, hearlier⟩ := comes.calls_eq
    obtain ⟨found, hfound, hgoes⟩ := comes.goes_on
    refine ⟨comes.config_eq, comes.total_eq, ?_, comes.batch_eq, ?_,
      ⟨c :: earlier, by rw [List.length_cons, hlen], ?_⟩, found, hfound, ?_⟩
    · rw [comes.completed_eq]
      simp only [RunResult.push]
      omega
    · rw [comes.requests_eq, hrequests]
      omega
    · rw [hearlier, hcalls, List.append_assoc, List.singleton_append]
    · rw [runBatches_cons, hstep, List.drop_succ_cons, ← hgoes, goOn]

theorem Order.inTurn_of_inputs? {inputs : Config × List Path}
    (hinputs : order.inputs? = some inputs) : order.inTurn = true := by
  cases order with
  | execute | executeOptional => rfl
  | executeParallel => simp [inputs?] at hinputs
  | run config files crew =>
    by_cases hjobs : 1 < config.jobs
    · simp [inputs?, hjobs] at hinputs
    · simp [inTurn, hjobs]

theorem carryOut_of_inputs? (hinputs : order.inputs? = some (config, files)) :
    x.carryOut s order = x.execute config files s := by
  rcases carryOut_eq_of_inTurn (Order.inTurn_of_inputs? hinputs) x with
    ⟨hnone, -⟩ | ⟨config', files', hsome, heq⟩
  · simp [hnone] at hinputs
  · obtain ⟨rfl, rfl⟩ : config' = config ∧ files' = files := by simpa [hsome] using hinputs
    exact heq s

/-- What a run ends with that is cancelled while the runner works on the batch at position `k`, in
the visit `v` with the call `c`. -/
structure CutShort (x : Executor ρ τ) (config : Config) (files : List Path) (s : Session ρ τ)
    (k : Nat) (v : Visit ρ τ) (c : Call) (batches : List Batch)
    (outcome : Except Failure RunResult) (s' : Session ρ τ) : Prop where
  plan_eq : plan config files = .ok batches
  batch_eq : batches[k]? = some v.batch
  /-- The run had not been cancelled when the batch began. -/
  first : v.session.host.cancelled = false
  stays : s'.host.cancelled = true
  requests_eq : s'.requests = s.requests + (k + 1)
  /-- The call is the last one of the run. -/
  calls_eq : ∃ earlier, earlier.length = k ∧ s'.calls = s.calls ++ (earlier ++ [c])
  /-- If the batch fails, that is the failure of the run. -/
  failed : ∀ cause, (x.lintBatch config v.batch v.session).1 = .error cause →
    outcome = .error (.batch k batches.length v.batch.files.length cause)
  /-- After the last batch there is a result, and it is whole. -/
  complete : ∀ issues, (x.lintBatch config v.batch v.session).1 = .ok issues →
    k + 1 = batches.length → ∃ result rounds, outcome = .ok result ∧
      Covers x config files s s' result batches rounds
  /-- Before any other batch the run stops. -/
  stopped : ∀ issues, (x.lintBatch config v.batch v.session).1 = .ok issues →
    k + 1 ≠ batches.length → outcome = .error (.cancelled (k + 1))

theorem runBatches_of_cancelled (hx : x.cancellable = true) (hs : s.host.cancelled = true)
    (config : Config) (total : Nat) (b : Batch) (rest : List Batch) (result : RunResult) :
    x.runBatches config total (b :: rest) result s = (.error (.cancelled result.batches), s) := by
  rw [runBatches, runBatch, if_pos (by simp [stopped, hx, hs])]

/-- A batch that the run has been cancelled in is the last one to be linted. -/
theorem goOn_of_cancelled (hx : x.cancellable = true) (hs : s.host.cancelled = true)
    (config : Config) (total : Nat) (rest : List Batch) (result : RunResult)
    (r : Except Failure (List Issue)) :
    x.goOn config total rest result (r, s) =
      (match r, rest with
        | .error e, _ => .error e
        | .ok issues, [] => .ok (result.push issues)
        | .ok _, _ :: _ => .error (.cancelled (result.batches + 1)), s) := by
  cases r with
  | error e => rfl
  | ok issues =>
    cases rest with
    | nil => rfl
    | cons b rest => rw [goOn, runBatches_of_cancelled hx hs, RunResult.push]

/-- A run that is cancelled by the call for a batch does nothing more after that batch. -/
theorem Comes.ends_of_call {total : Nat} {batches : List Batch} {result : RunResult}
    (comes : Comes x config total batches result s k v) (hx : x.cancellable = true)
    (hv : v.config.Valid) (hb : v.batch.files ≠ []) (hcall : v.call? x = some c)
    (hcancel : (v.answered x c).2.host.cancelled = true) :
    ∃ (found : RunResult) (s' : Session ρ τ),
      found.batches = result.batches + k ∧ s'.host.cancelled = true ∧
      s'.requests = s.requests + (k + 1) ∧
      (∃ earlier, earlier.length = k ∧ s'.calls = s.calls ++ (earlier ++ [c])) ∧
      x.runBatches config total batches result s =
        (match located v.batch total (x.lintBatch config v.batch v.session).1,
            batches.drop (k + 1) with
          | .error e, _ => .error e
          | .ok issues, [] => .ok (found.push issues)
          | .ok _, _ :: _ => .error (.cancelled (found.batches + 1)), s') := by
  obtain ⟨hrequests, hcalls, hcancelled⟩ := Visit.record_of_call hv hb hcall
  have hrun := Visit.runBatch_eq hcall
  rw [comes.config_eq, comes.total_eq] at hrequests hcalls hcancelled hrun
  rcases hlint : x.lintBatch config v.batch v.session with ⟨r, s'⟩
  rw [hrun, hlint] at hrequests hcalls hcancelled
  obtain ⟨earlier, hlen, hearlier⟩ := comes.calls_eq
  obtain ⟨found, hfound, hgoes⟩ := comes.goes_on
  refine ⟨found, s', hfound.trans comes.completed_eq, hcancelled.trans hcancel, ?_,
    ⟨earlier, hlen, ?_⟩, ?_⟩
  · exact hrequests.trans (by rw [comes.requests_eq, Nat.add_assoc])
  · exact hcalls.trans (by rw [hearlier, List.append_assoc])
  · rw [hgoes, hrun, hlint, goOn_of_cancelled hx (hcancelled.trans hcancel)]

theorem checkInputs_of_mem_visitsIn (h : v ∈ x.visitsIn config files s) :
    checkInputs config files = .ok () := by
  cases hcheck : checkInputs config files with
  | ok u => rfl
  | error e => simp [visitsIn, planChecked, hcheck] at h

theorem cutShort_of_call (hx : x.cancellable = true)
    (hvisit : (x.visitsIn config files s)[k]? = some v) (hcall : v.call? x = some c)
    (hcancel : (v.answered x c).2.host.cancelled = true) :
    CutShort x config files s k v c (Plan.batches config files) (x.execute config files s).1
      (x.execute config files s).2 := by
  have hcheck := checkInputs_of_mem_visitsIn (List.mem_of_getElem? hvisit)
  obtain ⟨hv, hb⟩ := usable_of_mem_visitsIn (List.mem_of_getElem? hvisit)
  have hplan := Plan.isGreedy_batches config files
  have hplan_eq := plan_eq_ok (valid_of_checkInputs hcheck) files
  rw [visitsIn, planChecked_eq_ok hcheck] at hvisit
  have comes := comes_of_visitsOf (valid_of_checkInputs hcheck) hplan.nonempty hvisit
  obtain ⟨hlt, hget⟩ := List.getElem?_eq_some_iff.mp comes.batch_eq
  have hindex : v.batch.index = k := by rw [← hplan.index k hlt, hget]
  obtain ⟨found, s', hfound, stays, hrequests, hcalls, heq⟩ :=
    comes.ends_of_call hx hv hb hcall hcancel
  have hexecute := (execute_eq_runBatches hcheck x s).trans heq
  have hcovers : ∀ result, (x.execute config files s).1 = .ok result → ∃ rounds,
      Covers x config files s (x.execute config files s).2 result (Plan.batches config files)
        rounds := by
    intro result h
    obtain ⟨batches, rounds, covers⟩ := execute_ok_covers h
    obtain rfl := Except.ok.inj (hplan_eq.symm.trans covers.plan_eq)
    exact ⟨rounds, covers⟩
  refine ⟨hplan_eq, comes.batch_eq, Visit.cancelled_eq_false hx hcall, ?_, ?_, ?_, ?_, ?_, ?_⟩
  · rw [hexecute]
    exact stays
  · rw [hexecute]
    exact hrequests
  · rw [hexecute]
    exact hcalls
  · intro cause hfail
    rw [hexecute, hfail, ← hindex]
    rfl
  · intro issues hdone hlast
    have hrest : (Plan.batches config files).drop (k + 1) = [] :=
      List.drop_eq_nil_of_le (Nat.le_of_eq hlast.symm)
    rw [hdone, hrest] at hexecute
    have hok : (x.execute config files s).1 = .ok (found.push issues) := congrArg Prod.fst hexecute
    obtain ⟨rounds, covers⟩ := hcovers _ hok
    exact ⟨_, rounds, hok, covers⟩
  · intro issues hdone hlast
    rw [hexecute, hdone, hfound]
    rcases hrest : (Plan.batches config files).drop (k + 1) with _ | ⟨b, rest⟩
    · exact absurd (Nat.le_antisymm hlt (List.drop_eq_nil_iff.mp hrest)) hlast
    · rw [Nat.zero_add]
      rfl

/-! ## Orders after a cancellation -/

/-- The inputs of an order that asks for one batch after the other, if they can be used. -/
def Order.usable? (order : Order) : Option (Config × List Path) :=
  order.inputs?.filter fun (config, files) => config.Valid && files.all fun f => !f.isBlank

/-- What an order ends with if the run has been cancelled before. -/
inductive Declined (order : Order) : Except Failure RunResult → Prop
  /-- The inputs are looked at first. -/
  | invalid (text : String) (unusable : order.usable? = none) :
      Declined order (.error (.invalidArgument text))
  /-- Without files there is no batch to stop before. -/
  | idle {config : Config} (usable : order.usable? = some (config, [])) : Declined order (.ok {})
  | cancelled {config : Config} {f : Path} {files : List Path}
      (usable : order.usable? = some (config, f :: files)) :
      Declined order (.error (.cancelled 0))

theorem Order.usable?_eq_some (hinputs : order.inputs? = some (config, files))
    (h : checkInputs config files = .ok ()) : order.usable? = some (config, files) := by
  obtain ⟨hv, hfiles⟩ := checkInputs_eq_ok_iff.mp h
  rw [usable?, hinputs, Option.filter_some, if_pos]
  simpa [hv] using hfiles

theorem Order.usable?_eq_none (hinputs : order.inputs? = some (config, files)) {e : Failure}
    (h : checkInputs config files = .error e) : order.usable? = none := by
  rw [usable?, hinputs, Option.filter_some, if_neg]
  intro hall
  have hok : checkInputs config files = .ok () :=
    checkInputs_eq_ok_iff.mpr (by simpa using hall)
  simp [h] at hok

/-- After a cancellation an order changes nothing. -/
theorem carryOut_of_cancelled (hx : x.cancellable = true) (hs : s.host.cancelled = true)
    (hturn : order.inTurn = true) : ∃ r, x.carryOut s order = (r, s) ∧ Declined order r := by
  rcases carryOut_eq_of_inTurn hturn x with ⟨hnone, text, heq⟩ | ⟨config, files, hinputs, heq⟩
  · exact ⟨_, heq s, .invalid text (by rw [Order.usable?, hnone, Option.filter_none])⟩
  rw [heq]
  cases hcheck : checkInputs config files with
  | error e =>
    obtain ⟨text, rfl⟩ := exists_of_checkInputs_eq_error hcheck
    exact ⟨_, by rw [execute, planChecked, hcheck],
      .invalid text (Order.usable?_eq_none hinputs hcheck)⟩
  | ok u =>
    have husable := Order.usable?_eq_some hinputs hcheck
    rw [execute_eq_runBatches hcheck]
    cases files with
    | nil => exact ⟨.ok {}, rfl, .idle husable⟩
    | cons f files =>
      have hfiles := (Plan.isGreedy_batches config (f :: files)).files
      rcases hbatches : Plan.batches config (f :: files) with _ | ⟨b, rest⟩
      · simp [hbatches] at hfiles
      · exact ⟨_, runBatches_of_cancelled hx hs .., .cancelled husable⟩

/-- Something that happens from one run to the next. -/
inductive Occasion where
  | order (order : Order)
  /-- Somebody cancels. -/
  | cancel

/-- The orders among what happens. -/
def orders (history : List Occasion) : List Order :=
  history.filterMap fun
    | .order order => some order
    | .cancel => none

/-- What the orders end with, and the session after everything has happened. -/
def pursue (x : Executor ρ τ) :
    List Occasion → Session ρ τ → List (Except Failure RunResult) × Session ρ τ
  | [], s => ([], s)
  | .cancel :: history, s => pursue x history (s.marked true)
  | .order order :: history, s =>
    let done := x.carryOut s order
    let rest := pursue x history done.2
    (done.1 :: rest.1, rest.2)

theorem pursue_append : ∀ (earlier later : List Occasion) (s : Session ρ τ),
    x.pursue (earlier ++ later) s =
      ((x.pursue earlier s).1 ++ (x.pursue later (x.pursue earlier s).2).1,
        (x.pursue later (x.pursue earlier s).2).2)
  | [], _, _ => rfl
  | .cancel :: earlier, later, s => pursue_append earlier later (s.marked true)
  | .order order :: earlier, later, s => by
    simp only [List.cons_append, pursue, pursue_append earlier later]

/-- After a cancellation nothing changes any more. -/
theorem pursue_of_cancelled (hx : x.cancellable = true) : ∀ (history : List Occasion)
    (s : Session ρ τ), s.host.cancelled = true → (∀ order ∈ orders history, order.inTurn = true) →
      ∃ rs, x.pursue history s = (rs, s) ∧ List.Forall₂ Declined (orders history) rs
  | [], _, _, _ => ⟨[], rfl, .nil⟩
  | .cancel :: history, s, hs, hturn => by
    rw [pursue, Session.marked_self hs]
    exact pursue_of_cancelled hx history s hs hturn
  | .order order :: history, s, hs, hturn => by
    obtain ⟨horder, hturn⟩ := List.forall_mem_cons.mp hturn
    obtain ⟨r, hr, declined⟩ := carryOut_of_cancelled hx hs horder
    obtain ⟨rs, hrs, hall⟩ := pursue_of_cancelled hx history s hs hturn
    exact ⟨r :: rs, by simp only [pursue, hr, hrs], .cons declined hall⟩

/-! ## Runs without a token -/

/-- The executors have no token and share their provider, and their runners are alike. -/
structure Heedless (x x' : Executor ρ τ) : Prop where
  cancellable : x.cancellable = false
  cancellable' : x'.cancellable = false
  provider_eq : x'.provider = x.provider
  runner : x.runner.Alike x'.runner

namespace Heedless

variable (h : Heedless x x')

include h

theorem request_marked (s : Session ρ τ) (b : Bool) :
    x'.request (s.marked b) = ((x.request s).1, (x.request s).2.marked b) := by
  rw [request, h.provider_eq]
  rfl

theorem launch_marked (command : Command) (deadline : UInt64) (s : Session ρ τ) (b : Bool) :
    ∃ b', x'.launch command deadline (s.marked b) =
      ((x.launch command deadline s).1, (x.launch command deadline s).2.marked b') := by
  obtain ⟨b', heq⟩ := h.runner command deadline s.runner s.host b
  have heq : x'.runner.run command deadline (s.marked b).runner (s.marked b).host = _ := heq
  exact ⟨b', by rw [launch, heq]; rfl⟩

theorem prepare_marked (config : Config) (batch : Batch) (s : Session ρ τ) (b : Bool) :
    x'.prepare config batch (s.marked b) =
      ((x.prepare config batch s).1, (x.prepare config batch s).2.marked b) := by
  unfold prepare Command.build
  rw [h.request_marked]
  cases config.check with
  | error e => rfl
  | ok u =>
    cases batch.files.isEmpty with
    | true => rfl
    | false =>
      rcases x.request s with ⟨e | o, s₁⟩
      · rfl
      · simp only [Bool.false_eq_true, if_false]
        split <;> rfl

theorem perform_marked (config : Config) (batch : Batch) (command : Command) (s : Session ρ τ)
    (b : Bool) : ∃ b', x'.perform config batch command (s.marked b) =
      ((x.perform config batch command s).1, (x.perform config batch command s).2.marked b') := by
  obtain ⟨b', heq⟩ := h.launch_marked command (config.deadline batch.files.length) s b
  refine ⟨b', ?_⟩
  rw [perform, perform, heq]
  rcases x.launch command (config.deadline batch.files.length) s with ⟨_ | _, _⟩ <;> rfl

theorem lintBatch_marked (config : Config) (batch : Batch) (s : Session ρ τ) (b : Bool) :
    ∃ b', x'.lintBatch config batch (s.marked b) =
      ((x.lintBatch config batch s).1, (x.lintBatch config batch s).2.marked b') := by
  unfold lintBatch
  rw [h.prepare_marked]
  rcases x.prepare config batch s with ⟨e | command, s₁⟩
  · exact ⟨b, rfl⟩
  obtain ⟨b', heq⟩ := h.perform_marked config batch command s₁ b
  simp only [heq]
  rcases x.perform config batch command s₁ with ⟨e | outcome, s₂⟩
  · exact ⟨b', rfl⟩
  · refine ⟨b', ?_⟩
    have hread : command.output.read (s₂.marked b').host.files =
      command.output.read s₂.host.files := rfl
    simp only [collect, hread]
    cases command.output.read s₂.host.files <;> rfl

theorem runBatch_marked (config : Config) (batch : Batch) (total completed : Nat) (s : Session ρ τ)
    (b : Bool) : ∃ b', x'.runBatch config batch total completed (s.marked b) =
      ((x.runBatch config batch total completed s).1,
        (x.runBatch config batch total completed s).2.marked b') := by
  obtain ⟨b', heq⟩ := h.lintBatch_marked config batch s b
  refine ⟨b', ?_⟩
  rw [runBatch, runBatch, if_neg (by simp [stopped, h.cancellable']),
    if_neg (by simp [stopped, h.cancellable]), heq]

theorem runBatches_marked (config : Config) (total : Nat) : ∀ (batches : List Batch)
    (result : RunResult) (s : Session ρ τ) (b : Bool),
      ∃ b', x'.runBatches config total batches result (s.marked b) =
        ((x.runBatches config total batches result s).1,
          (x.runBatches config total batches result s).2.marked b')
  | [], _, _, b => ⟨b, rfl⟩
  | batch :: batches, result, s, b => by
    obtain ⟨b', heq⟩ := h.runBatch_marked config batch total result.batches s b
    rw [runBatches, runBatches, heq]
    rcases x.runBatch config batch total result.batches s with ⟨e | issues, s₁⟩
    · exact ⟨b', rfl⟩
    · exact runBatches_marked config total batches (result.push issues) s₁ b'

theorem execute_marked (config : Config) (files : List Path) (s : Session ρ τ) (b : Bool) :
    ∃ b', x'.execute config files (s.marked b) =
      ((x.execute config files s).1, (x.execute config files s).2.marked b') := by
  unfold execute
  cases planChecked config files with
  | error e => exact ⟨b, rfl⟩
  | ok batches => exact h.runBatches_marked config batches.length batches {} s b

theorem carryOut_marked (hturn : order.inTurn = true) (s : Session ρ τ) (b : Bool) :
    ∃ b', x'.carryOut (s.marked b) order =
      ((x.carryOut s order).1, (x.carryOut s order).2.marked b') := by
  cases order with
  | execute config files => exact h.execute_marked config files s b
  | executeOptional config files =>
    rcases config with _ | config
    · exact ⟨b, rfl⟩
    rcases files with _ | files
    · exact ⟨b, rfl⟩
    exact h.execute_marked config files s b
  | executeParallel config files crew => simp [Order.inTurn] at hturn
  | run config files crew =>
    have hjobs : ¬1 < config.jobs := by simpa [Order.inTurn] using hturn
    simp only [carryOut, run, hjobs, if_false]
    exact h.execute_marked config files s b

/-- Whether somebody cancels or nobody does, the orders end in the same way. -/
theorem pursue_marked : ∀ (history : List Occasion) (s : Session ρ τ) (b : Bool),
    (∀ order ∈ orders history, order.inTurn = true) →
      ∃ b', x'.pursue ((orders history).map .order) (s.marked b) =
        ((x.pursue history s).1, (x.pursue history s).2.marked b')
  | [], _, b, _ => ⟨b, rfl⟩
  | .cancel :: history, s, b, hturn => pursue_marked history (s.marked true) b hturn
  | .order order :: history, s, b, hturn => by
    obtain ⟨horder, hturn⟩ := List.forall_mem_cons.mp hturn
    obtain ⟨b₁, heq⟩ := h.carryOut_marked horder s b
    obtain ⟨b', hrest⟩ := pursue_marked history (x.carryOut s order).2 b₁ hturn
    have horders : orders (.order order :: history) = order :: orders history := rfl
    refine ⟨b', ?_⟩
    simp only [horders, List.map_cons, pursue, heq]
    rw [hrest]

end Heedless

/-- What cancelling means for runs that go batch after batch. With a token, once it is cancelled no
later order does anything, and each of them is declined in its own way; and a run that is cancelled
by one of its own calls ends as this batch and its place in the plan say. Without a token, neither a
cancellation between the orders nor one by the runner makes a difference to anything but the mark
itself. -/
theorem pursue_heeds_cancellation (x : Executor ρ τ) :
    (x.cancellable = true →
      (∀ earlier later s, (∀ order ∈ orders later, order.inTurn = true) →
        (x.pursue earlier s).2.host.cancelled = true →
        ∃ declined, x.pursue (earlier ++ later) s =
            ((x.pursue earlier s).1 ++ declined, (x.pursue earlier s).2) ∧
          List.Forall₂ Declined (orders later) declined) ∧
      ∀ order config files s k v c, order.inputs? = some (config, files) →
        (x.visitsIn config files s)[k]? = some v → v.call? x = some c →
        (v.answered x c).2.host.cancelled = true →
        ∃ batches, CutShort x config files s k v c batches (x.carryOut s order).1
          (x.carryOut s order).2) ∧
    ∀ x', Heedless x x' → ∀ history s b, (∀ order ∈ orders history, order.inTurn = true) →
      ∃ b', x'.pursue ((orders history).map .order) (s.marked b) =
        ((x.pursue history s).1, (x.pursue history s).2.marked b') := by
  refine ⟨fun hx => ⟨fun earlier later s hturn hcancelled => ?_, ?_⟩,
    fun x' h history s b => h.pursue_marked history s b⟩
  · obtain ⟨declined, heq, hall⟩ := pursue_of_cancelled hx later _ hcancelled hturn
    exact ⟨declined, by rw [pursue_append, heq], hall⟩
  · intro order config files s k v c hinputs hvisit hcall hcancel
    rw [carryOut_of_inputs? hinputs]
    exact ⟨_, cutShort_of_call hx hvisit hcall hcancel⟩

/-- No process has anything to report, and the runner cancels in its call number `k`. -/
def withdrawing (k : Nat) : Executor Nat TempFiles where
  runner.run _ _ n h := (.ok { exitCode := some 0 }, n + 1, h.marked (h.cancelled || n == k))
  provider := TempFiles.provider
  cancellable := true

/-- The same without a token. -/
def tokenless (k : Nat) : Executor Nat TempFiles := { withdrawing k with cancellable := false }

theorem heedless_tokenless (k k' : Nat) : Heedless (tokenless k) (tokenless k') :=
  ⟨rfl, rfl, rfl, fun _ _ _ _ _ => ⟨_, rfl⟩⟩

/-- Five files, which take three batches. -/
def fiveFiles : Order := .execute Plan.narrow [[97], [98], [99], [100], [101]]

/-- Orders of every kind, and a cancellation. -/
def afterwards : List Occasion :=
  [.order (.execute Plan.narrow []), .order (.executeOptional none none), .cancel,
    .order (.run Plan.narrow [[97]] (.atWork [])), .order (.execute Plan.narrow [[97], []])]

/-- The second call cancels the run of the five files before its last batch, and later orders are
declined. Without a token the same runner makes no difference, and neither do the cancellations
between the orders. -/
theorem pursue_withdrawing_heeds_cancellation :
    ((withdrawing 1).carryOut .fresh fiveFiles).1 = .error (.cancelled 2) ∧
      (∃ v c, ((withdrawing 1).visitsIn Plan.narrow [[97], [98], [99], [100], [101]] .fresh)[1]? =
          some v ∧ v.call? (withdrawing 1) = some c ∧
        (v.answered (withdrawing 1) c).2.host.cancelled = true ∧
        ∃ batches, CutShort (withdrawing 1) Plan.narrow [[97], [98], [99], [100], [101]] .fresh 1 v
          c batches ((withdrawing 1).carryOut .fresh fiveFiles).1
          ((withdrawing 1).carryOut .fresh fiveFiles).2) ∧
      (∃ declined, (withdrawing 1).pursue ([.order fiveFiles] ++ afterwards) .fresh =
          (((withdrawing 1).pursue [.order fiveFiles] .fresh).1 ++ declined,
            ((withdrawing 1).pursue [.order fiveFiles] .fresh).2) ∧
        List.Forall₂ Declined (orders afterwards) declined) ∧
      ∃ b, (tokenless 9).pursue ((orders afterwards).map .order) (Session.fresh.marked false) =
        (((tokenless 1).pursue afterwards .fresh).1,
          ((tokenless 1).pursue afterwards .fresh).2.marked b) := by
  have hturn : ∀ order ∈ orders afterwards, order.inTurn = true := by decide +kernel
  obtain ⟨hheeds, -⟩ := pursue_heeds_cancellation (withdrawing 1)
  obtain ⟨hlater, hcut⟩ := hheeds rfl
  have hany : (((withdrawing 1).visitsIn Plan.narrow [[97], [98], [99], [100], [101]]
      .fresh)[1]?.any fun v => (v.call? (withdrawing 1)).any fun c =>
        (v.answered (withdrawing 1) c).2.host.cancelled) = true := by decide +kernel
  obtain ⟨v, hvisit, hany⟩ := (Option.any_eq_true _ _).mp hany
  obtain ⟨c, hcall, hcancel⟩ := (Option.any_eq_true _ _).mp hany
  refine ⟨by decide +kernel, ⟨v, c, hvisit, hcall, hcancel, hcut fiveFiles _ _ _ _ _ _ rfl hvisit
    hcall hcancel⟩, hlater [.order fiveFiles] afterwards .fresh hturn (by decide +kernel), ?_⟩
  exact (pursue_heeds_cancellation (tokenless 1)).2 (tokenless 9) (heedless_tokenless 1 9)
    afterwards .fresh false hturn

end Executor

end LintDispatch
