import LintDispatch.Proofs.Run.Agreement
import LintDispatch.Proofs.Run.Leftovers

/-!
# Runs that are repeated
Output files that nobody removes stay where they are, and so the files that a run can see hold the
reports of earlier runs. `Executor.visits` lists the batches that some orders come to, each with the
session that it is come to in (`Visit`). As long as every output file is missing or empty when it is
handed out, the report that is interpreted for a batch is the one that its own call has left, and an
empty one if the call has left nothing (`Visit.result_eq`). What earlier calls have left does not
matter, and neither does the path itself.

So a run can be repeated: if the runner's exit code, its messages and its report depend on the files
alone, every repetition ends as the first run did (`runBatches_congr`).
-/

namespace LintDispatch

variable {ρ τ : Type}

/-- The outcome without what the process wrote to its standard output, which nobody looks at. -/
def Outcome.quiet (o : Outcome) : Outcome := { o with stdout := "" }

/-- What has been left in an output file since there were these files: an empty report if what is
read from it is the same. -/
def OutputFile.left (o : OutputFile) (fs fs' : FileSystem) : Except HostError Bytes :=
  if o.read fs' = o.read fs then .ok [] else (o.read fs').map (·.getD [])

/-- The file is missing or empty. -/
def OutputFile.IsNew (o : OutputFile) (fs : FileSystem) : Prop :=
  o.read fs = .ok none ∨ o.read fs = .ok (some [])

instance (o : OutputFile) (fs : FileSystem) : Decidable (o.IsNew fs) :=
  inferInstanceAs (Decidable (_ ∨ _))

/-- What is read from a file that was missing or empty has been left there since. -/
theorem OutputFile.IsNew.left_eq {o : OutputFile} {fs : FileSystem} (h : o.IsNew fs)
    (fs' : FileSystem) : o.left fs fs' = (o.read fs').map (·.getD []) := by
  unfold left
  split
  · next heq =>
    rw [heq]
    rcases h with h | h <;> rw [h] <;> rfl
  · rfl

/-- The replies differ at most in the standard output. -/
def Reply.Agrees (r r' : Reply) : Prop :=
  r.answer.map Outcome.quiet = r'.answer.map Outcome.quiet ∧ r.report = r'.report

theorem Reply.Agrees.verdict_eq {r r' : Reply} (h : r.Agrees r') : r.verdict = r'.verdict := by
  obtain ⟨answer, report⟩ := r
  obtain ⟨answer', report'⟩ := r'
  obtain ⟨hanswer, rfl⟩ : answer.map Outcome.quiet = answer'.map Outcome.quiet ∧
    report = report' := h
  cases answer with
  | error e =>
    cases answer' with
    | error e' => simpa [verdict, Except.map] using hanswer
    | ok outcome' => simp [Except.map] at hanswer
  | ok outcome =>
    cases answer' with
    | error e' => simp [Except.map] at hanswer
    | ok outcome' =>
      have hquiet : outcome.quiet = outcome'.quiet := Except.ok.inj hanswer
      cases report with
      | error e => rfl
      | ok text =>
        calc outcome.interpret text = outcome.quiet.interpret text := rfl
          _ = outcome'.quiet.interpret text := by rw [hquiet]
          _ = outcome'.interpret text := rfl

/-! ## Visits -/

/-- A batch that a run comes to, as one of `total`, and the session that it is come to in. -/
structure Visit (ρ τ : Type) where
  config : Config
  total : Nat
  /-- How many batches of the run are done. -/
  completed : Nat
  batch : Batch
  session : Session ρ τ

namespace Visit

/-- What comes of the batch. -/
def result (x : Executor ρ τ) (v : Visit ρ τ) : Except Failure (List Issue) :=
  (x.runBatch v.config v.batch v.total v.completed v.session).1

/-- The output file that is handed out, unless the run has been cancelled or there is none. -/
def output? (x : Executor ρ τ) (v : Visit ρ τ) : Option OutputFile :=
  if x.stopped v.session then none else (x.request v.session).1.toOption

/-- The session once an output file has been asked for. -/
def asked (x : Executor ρ τ) (v : Visit ρ τ) : Session ρ τ := (x.request v.session).2

/-- What is handed to the runner: nothing if the output path makes the command too long. -/
def call? (x : Executor ρ τ) (v : Visit ρ τ) : Option Call :=
  (v.output? x).bind fun o =>
    if (v.batch.command v.config o).overlong v.config then none else some (v.batch.call v.config o)

/-- The answer of the runner and the session after it. -/
def answered (x : Executor ρ τ) (v : Visit ρ τ) (c : Call) :
    Except Failure Outcome × Session ρ τ :=
  x.launch c.command c.deadline (v.asked x)

/-- What the runner says, and what its call leaves in the output file. -/
def reply (x : Executor ρ τ) (v : Visit ρ τ) (c : Call) : Reply where
  answer := (v.answered x c).1
  report := c.command.output.left (v.asked x).host.files (v.answered x c).2.host.files

variable {x : Executor ρ τ} {v : Visit ρ τ} {c : Call} {o : OutputFile}

theorem output?_eq_some : v.output? x = some o ↔
    x.stopped v.session = false ∧ x.request v.session = (.ok o, v.asked x) := by
  unfold output? asked
  rcases x.request v.session with ⟨e | o', s⟩
  · simp [Except.toOption]
  · simp [Except.toOption]

theorem call?_eq_some : v.call? x = some c ↔ ∃ o, v.output? x = some o ∧
    (v.batch.command v.config o).overlong v.config = false ∧ c = v.batch.call v.config o := by
  rw [call?, Option.bind_eq_some_iff]
  refine exists_congr fun o => and_congr_right fun _ => ?_
  cases (v.batch.command v.config o).overlong v.config with
  | true => simp
  | false => simp [eq_comm]

/-- The batch of a call is judged by the answer to it and by what is read after it. -/
theorem runBatch_of_call (hv : v.config.Valid) (hb : v.batch.files ≠ [])
    (hc : v.call? x = some c) :
    x.runBatch v.config v.batch v.total v.completed v.session =
      (Executor.located v.batch v.total (Reply.verdict ⟨(v.answered x c).1,
        (c.command.output.read (v.answered x c).2.host.files).map (·.getD [])⟩),
        (v.answered x c).2.release c.command.output) := by
  obtain ⟨o, ho, fits, rfl⟩ := call?_eq_some.mp hc
  obtain ⟨going, request⟩ := output?_eq_some.mp ho
  have hout : (v.batch.call v.config o).command.output = o := rfl
  have fits : (Command.ofBatch v.config o v.batch.files).overlong v.config = false := fits
  have hprepare : x.prepare v.config v.batch v.session =
      (.ok (v.batch.command v.config o), v.asked x) := by
    rw [Executor.prepare_eq hv hb, request]
    simp only [fits, Bool.false_eq_true, if_false]
    rfl
  rw [Executor.runBatch, if_neg (by simp [going]), Executor.lintBatch, hprepare]
  simp only [Executor.perform, hout]
  rcases hlaunch : v.answered x (v.batch.call v.config o) with ⟨e | outcome, s⟩
  · have hlaunch : x.launch (v.batch.command v.config o)
        (v.config.deadline v.batch.files.length) (v.asked x) = (.error e, s) := hlaunch
    rw [hlaunch]
    rfl
  · have hlaunch : x.launch (v.batch.command v.config o)
        (v.config.deadline v.batch.files.length) (v.asked x) = (.ok outcome, s) := hlaunch
    rw [hlaunch]
    simp only [Executor.collect]
    have hout : (v.batch.command v.config o).output = o := rfl
    rw [hout]
    cases o.read s.host.files with
    | error e => rfl
    | ok report => rfl

/-- Without a call there is no result, and the runner has been called for nothing. -/
theorem runBatch_of_no_call (hv : v.config.Valid) (hb : v.batch.files ≠ [])
    (hc : v.call? x = none) : ∃ e s, s.calls = v.session.calls ∧
      x.runBatch v.config v.batch v.total v.completed v.session = (.error e, s) := by
  rw [Executor.runBatch]
  cases going : x.stopped v.session with
  | true => exact ⟨_, _, rfl, rfl⟩
  | false =>
    rw [if_neg Bool.false_ne_true, Executor.lintBatch, Executor.prepare_eq hv hb]
    have hcalls : (x.request v.session).2.calls = v.session.calls := rfl
    rcases request : x.request v.session with ⟨e | o, s⟩
    · exact ⟨_, s, by rw [← hcalls, request], rfl⟩
    · have ho : v.output? x = some o := by
        rw [output?_eq_some, asked, request]
        exact ⟨going, rfl⟩
      have hover : (Command.ofBatch v.config o v.batch.files).overlong v.config = true := by
        by_contra hfits
        rw [Bool.not_eq_true] at hfits
        have := call?_eq_some.mpr ⟨o, ho, hfits, rfl⟩
        simp [hc] at this
      simp only [hover, if_true]
      refine ⟨_, s.release o, ?_, rfl⟩
      rw [← hcalls, request]
      rfl

/-- What comes of a batch is what its own call has left, if its output file was missing or empty. -/
theorem result_eq (hv : v.config.Valid) (hb : v.batch.files ≠ []) (hc : v.call? x = some c)
    (hnew : c.command.output.IsNew (v.asked x).host.files) :
    v.result x = Executor.located v.batch v.total (v.reply x c).verdict := by
  rw [result, runBatch_of_call hv hb hc, reply, hnew.left_eq]

/-- The runner has been called for the batch as the visit tells. -/
theorem calls_eq (hv : v.config.Valid) (hb : v.batch.files ≠ []) :
    (x.runBatch v.config v.batch v.total v.completed v.session).2.calls =
      v.session.calls ++ (v.call? x).toList := by
  cases hc : v.call? x with
  | none =>
    obtain ⟨e, s, hcalls, heq⟩ := runBatch_of_no_call hv hb hc
    rw [heq]
    simpa using hcalls
  | some c =>
    rw [runBatch_of_call hv hb hc]
    rfl

/-- An output file is handed out for the batch, within the reserve, and if the runner is called it
gives its reply to the files. -/
structure Follows (x : Executor ρ τ) (reply : List Path → Reply) (v : Visit ρ τ) : Prop where
  output : ∃ o ∈ v.output? x, o.path.length ≤ Config.outputPathReserve
  agrees : ∀ c ∈ v.call? x, (v.reply x c).Agrees (reply v.batch.files)

/-- The batch has the result that the reply to its files amounts to. -/
theorem Follows.result_eq {reply : List Path → Reply} (h : v.Follows x reply)
    (hv : v.config.Valid) (hb : v.batch.files ≠ [])
    (hnew : ∀ o ∈ v.output? x, o.IsNew (v.asked x).host.files) :
    v.result x = Executor.located v.batch v.total (reply v.batch.files).verdict := by
  obtain ⟨o, ho, hlen⟩ := h.output
  have hc : v.call? x = some (v.batch.call v.config o) :=
    call?_eq_some.mpr ⟨o, ho, Executor.overlong_eq_false hlen, rfl⟩
  rw [Visit.result_eq hv hb hc (hnew o ho), (h.agrees _ hc).verdict_eq]

end Visit

namespace Executor

/-- The batches that are come to, one after the other, up to the first failure. -/
def visitsOf (x : Executor ρ τ) (config : Config) (total : Nat) :
    List Batch → RunResult → Session ρ τ → List (Visit ρ τ)
  | [], _, _ => []
  | batch :: batches, result, s =>
    ⟨config, total, result.batches, batch, s⟩ ::
      match x.runBatch config batch total result.batches s with
      | (.error _, _) => []
      | (.ok issues, s) => visitsOf x config total batches (result.push issues) s

/-- The batches that a run comes to. -/
def visitsIn (x : Executor ρ τ) (config : Config) (files : List Path) (s : Session ρ τ) :
    List (Visit ρ τ) :=
  match planChecked config files with
  | .error _ => []
  | .ok batches => x.visitsOf config batches.length batches {} s

/-- The configuration and the files of an order that asks for one batch after the other. -/
def Order.inputs? : Order → Option (Config × List Path)
  | .execute config files => some (config, files)
  | .executeOptional (some config) (some files) => some (config, files)
  | .executeOptional _ _ => none
  | .executeParallel _ _ _ => none
  | .run config files _ => if 1 < config.jobs then none else some (config, files)

/-- The batches that are come to for some orders, one order after the other. -/
def visits (x : Executor ρ τ) : List Order → Session ρ τ → List (Visit ρ τ)
  | [], _ => []
  | order :: orders, s =>
    (match order.inputs? with
      | none => []
      | some (config, files) => x.visitsIn config files s) ++
      visits x orders (x.carryOut s order).2

variable {x : Executor ρ τ} {config : Config} {files : List Path} {s s' : Session ρ τ}
  {v : Visit ρ τ} {order : Order} {orders : List Order}

theorem mem_visitsOf {total : Nat} : ∀ {batches : List Batch} {result : RunResult}
    {s : Session ρ τ}, v ∈ x.visitsOf config total batches result s →
      v.config = config ∧ v.batch ∈ batches
  | [], _, _, h => absurd h List.not_mem_nil
  | b :: batches, result, s, h => by
    rw [visitsOf, List.mem_cons] at h
    rcases h with rfl | h
    · exact ⟨rfl, List.mem_cons_self⟩
    · rcases hstep : x.runBatch config b total result.batches s with ⟨e | issues, s₁⟩
      · simp [hstep] at h
      · rw [hstep] at h
        exact (mem_visitsOf h).imp_right (List.mem_cons_of_mem b)

/-- A run only comes to batches with files, and with a configuration that can drive it. -/
theorem usable_of_mem_visitsIn (h : v ∈ x.visitsIn config files s) :
    v.config.Valid ∧ v.batch.files ≠ [] := by
  unfold visitsIn at h
  cases hinputs : checkInputs config files with
  | error e => simp [planChecked, hinputs] at h
  | ok u =>
    rw [planChecked_eq_ok hinputs] at h
    obtain ⟨rfl, hb⟩ := mem_visitsOf h
    exact ⟨valid_of_checkInputs hinputs, (Plan.isGreedy_batches _ files).nonempty _ hb⟩

theorem calls_visitsOf (hv : config.Valid) (total : Nat) : ∀ (batches : List Batch)
    (result : RunResult) (s : Session ρ τ), (∀ b ∈ batches, b.files ≠ []) →
      (x.runBatches config total batches result s).2.calls =
        s.calls ++ (x.visitsOf config total batches result s).filterMap (Visit.call? x)
  | [], result, s, _ => (List.append_nil _).symm
  | b :: batches, result, s, hne => by
    obtain ⟨hb, hne⟩ := List.forall_mem_cons.mp hne
    let v : Visit ρ τ := ⟨config, total, result.batches, b, s⟩
    have hcalls : (x.runBatch config b total result.batches s).2.calls =
      s.calls ++ (v.call? x).toList := v.calls_eq hv hb
    rw [runBatches, visitsOf, ← List.singleton_append, List.filterMap_append, ← List.append_assoc]
    have hsingle : [v].filterMap (Visit.call? x) = (v.call? x).toList := by
      cases hc : v.call? x <;> simp [hc]
    rw [hsingle, ← hcalls]
    rcases x.runBatch config b total result.batches s with ⟨e | issues, s₁⟩
    · exact (List.append_nil _).symm
    · exact calls_visitsOf hv total batches (result.push issues) s₁ hne

/-- The calls of a run are those of its visits. -/
theorem calls_visitsIn (x : Executor ρ τ) (config : Config) (files : List Path)
    (s : Session ρ τ) : (x.execute config files s).2.calls =
      s.calls ++ (x.visitsIn config files s).filterMap (Visit.call? x) := by
  unfold execute visitsIn
  cases hinputs : checkInputs config files with
  | error e => simp [planChecked, hinputs]
  | ok u =>
    rw [planChecked_eq_ok hinputs]
    exact calls_visitsOf (valid_of_checkInputs hinputs) _ _ _ s
      (Plan.isGreedy_batches config files).nonempty

/-- An order that asks for one batch after the other is a run with its inputs, or it has none. -/
theorem carryOut_eq_of_inTurn (h : order.inTurn = true) (x : Executor ρ τ) :
    (order.inputs? = none ∧
        ∃ text, ∀ s, x.carryOut s order = (.error (.invalidArgument text), s)) ∨
      ∃ config files, order.inputs? = some (config, files) ∧
        ∀ s, x.carryOut s order = x.execute config files s := by
  cases order with
  | execute config files => exact Or.inr ⟨config, files, rfl, fun _ => rfl⟩
  | executeOptional config files =>
    rcases config with _ | config
    · exact Or.inl ⟨rfl, _, fun _ => rfl⟩
    rcases files with _ | files
    · exact Or.inl ⟨rfl, _, fun _ => rfl⟩
    exact Or.inr ⟨config, files, rfl, fun _ => rfl⟩
  | executeParallel config files crew => simp [Order.inTurn] at h
  | run config files crew =>
    have hjobs : ¬1 < config.jobs := by simpa [Order.inTurn] using h
    exact Or.inr ⟨config, files, if_neg hjobs, fun s => by simp [carryOut, run, hjobs]⟩

/-- The calls of some orders are those of their visits. -/
theorem calls_visits : ∀ (orders : List Order) (s : Session ρ τ),
    (∀ order ∈ orders, order.inTurn = true) → (x.afterOrders orders s).calls =
      s.calls ++ (x.visits orders s).filterMap (Visit.call? x)
  | [], s, _ => (List.append_nil _).symm
  | order :: orders, s, hturn => by
    obtain ⟨horder, hturn⟩ := List.forall_mem_cons.mp hturn
    have hrest := calls_visits orders (x.carryOut s order).2 hturn
    have hafter : x.afterOrders (order :: orders) s =
      x.afterOrders orders (x.carryOut s order).2 := rfl
    rw [hafter, hrest, visits, List.filterMap_append, ← List.append_assoc]
    rcases carryOut_eq_of_inTurn horder x with ⟨hnone, text, heq⟩ | ⟨config, files, hsome, heq⟩
    · rw [heq, hnone]
      simp
    · rw [heq, hsome, calls_visitsIn]

theorem usable_of_mem_visits : ∀ {orders : List Order} {s : Session ρ τ}, v ∈ x.visits orders s →
    v.config.Valid ∧ v.batch.files ≠ []
  | [], _, h => absurd h List.not_mem_nil
  | order :: orders, s, h => by
    rw [visits, List.mem_append] at h
    rcases h with h | h
    · cases hinputs : order.inputs? with
      | none => simp [hinputs] at h
      | some inputs =>
        rw [hinputs] at h
        exact usable_of_mem_visitsIn h
    · exact usable_of_mem_visits h

/-! ## Own reports -/

/-- Every output file is missing or empty when it is handed out, and no path is handed out twice. -/
structure HandsOutNew (x : Executor ρ τ) (visits : List (Visit ρ τ)) : Prop where
  isNew : ∀ v ∈ visits, ∀ o ∈ v.output? x, o.IsNew (v.asked x).host.files
  distinct : (visits.filterMap fun v => (v.output? x).map OutputFile.path).Nodup

/-- The call made in the visit at a position is the only one that its batch is judged by. -/
structure OwnReport (x : Executor ρ τ) (visits : List (Visit ρ τ)) (i : Nat) (v : Visit ρ τ)
    (c : Call) : Prop where
  /-- The batch has the result that the answer and the report left by this call amount to. -/
  result_eq : v.result x = located v.batch v.total (v.reply x c).verdict
  /-- The call changes nothing but the place of its output file. -/
  untouched : ∀ l, (v.asked x).host.files.locate c.command.output.path ≠ .ok l →
    (v.answered x c).2.host.files.node? l = (v.asked x).host.files.node? l
  /-- No other call has this output path. -/
  alone : ∀ j w c', visits[j]? = some w → w.call? x = some c' → j ≠ i →
    c'.command.output.path ≠ c.command.output.path

theorem output?_of_call? {c : Call} (h : v.call? x = some c) :
    v.output? x = some c.command.output := by
  obtain ⟨o, ho, -, rfl⟩ := Visit.call?_eq_some.mp h
  exact ho

/-- Two visits are never handed out the same path. -/
theorem HandsOutNew.path_ne {visits : List (Visit ρ τ)} (h : x.HandsOutNew visits) {i j : Nat}
    {w : Visit ρ τ} {o o' : OutputFile} (hi : visits[i]? = some v) (hj : visits[j]? = some w)
    (hne : j ≠ i) (ho : v.output? x = some o) (ho' : w.output? x = some o') :
    o'.path ≠ o.path := by
  obtain ⟨hlt, rfl⟩ := List.getElem?_eq_some_iff.mp hi
  obtain ⟨hlt', rfl⟩ := List.getElem?_eq_some_iff.mp hj
  have hpairs := List.pairwise_iff_getElem.mp (List.pairwise_filterMap.mp h.distinct)
  have hpath : (visits[i].output? x).map OutputFile.path = some o.path := by rw [ho]; rfl
  have hpath' : (visits[j].output? x).map OutputFile.path = some o'.path := by rw [ho']; rfl
  rcases Nat.lt_or_gt_of_ne hne with hji | hij
  · exact hpairs j i hlt' hlt hji _ hpath' _ hpath
  · exact (hpairs i j hlt hlt' hij _ hpath _ hpath').symm

theorem HandsOutNew.ownReport {visits : List (Visit ρ τ)} (h : x.HandsOutNew visits)
    (hconfined : x.runner.Confined) (husable : ∀ v ∈ visits, v.config.Valid ∧ v.batch.files ≠ [])
    {i : Nat} (hi : visits[i]? = some v) {c : Call} (hc : v.call? x = some c) :
    OwnReport x visits i v c where
  result_eq := by
    have hmem := List.mem_of_getElem? hi
    obtain ⟨hv, hb⟩ := husable v hmem
    exact Visit.result_eq hv hb hc (h.isNew v hmem _ (output?_of_call? hc))
  untouched := (hconfined c.command c.deadline (v.asked x).runner (v.asked x).host).2
  alone _ _ _ hj hc' hne := h.path_ne hi hj hne (output?_of_call? hc) (output?_of_call? hc')

/-! ## Repetitions -/

/-- Batches whose results are those of their files end in the same way from any session. -/
theorem runBatches_congr {total : Nat} {verdict : List Path → Except Failure (List Issue)} :
    ∀ {batches : List Batch} {result : RunResult} {s s' : Session ρ τ},
      (∀ v ∈ x.visitsOf config total batches result s,
        v.result x = located v.batch v.total (verdict v.batch.files)) →
      (∀ v ∈ x.visitsOf config total batches result s',
        v.result x = located v.batch v.total (verdict v.batch.files)) →
      (x.runBatches config total batches result s).1 =
        (x.runBatches config total batches result s').1
  | [], _, _, _, _, _ => rfl
  | b :: batches, result, s, s', h, h' => by
    rw [visitsOf] at h h'
    obtain ⟨hstep, h⟩ := List.forall_mem_cons.mp h
    obtain ⟨hstep', h'⟩ := List.forall_mem_cons.mp h'
    rw [Visit.result] at hstep hstep'
    rw [runBatches, runBatches]
    simp only at hstep hstep' ⊢
    rcases hrun : x.runBatch config b total result.batches s with ⟨r, s₁⟩
    rcases hrun' : x.runBatch config b total result.batches s' with ⟨r', s₁'⟩
    rw [hrun] at hstep h
    rw [hrun'] at hstep' h'
    obtain rfl : r = r' := hstep.trans hstep'.symm
    cases r with
    | error e => rfl
    | ok issues => exact runBatches_congr h h'

theorem execute_congr (verdict : List Path → Except Failure (List Issue))
    (h : ∀ v ∈ x.visitsIn config files s,
      v.result x = located v.batch v.total (verdict v.batch.files))
    (h' : ∀ v ∈ x.visitsIn config files s',
      v.result x = located v.batch v.total (verdict v.batch.files)) :
    (x.execute config files s).1 = (x.execute config files s').1 := by
  unfold visitsIn at h h'
  unfold execute
  cases hplan : planChecked config files with
  | error e => rfl
  | ok batches =>
    rw [hplan] at h h'
    exact runBatches_congr h h'

theorem visits_append : ∀ (orders orders' : List Order) (s : Session ρ τ),
    x.visits (orders ++ orders') s = x.visits orders s ++ x.visits orders' (x.afterOrders orders s)
  | [], _, _ => rfl
  | order :: orders, orders', s => by
    rw [List.cons_append, visits, visits, visits_append orders, List.append_assoc]
    rfl

/-- The visits of each repetition are among those of all of them. -/
theorem visitsIn_subset {n k : Nat} (hk : k < n) {inputs : Config × List Path}
    (horder : order.inputs? = some inputs) (s : Session ρ τ) :
    ∀ v ∈ x.visitsIn inputs.1 inputs.2 (x.afterOrders (List.replicate k order) s),
      v ∈ x.visits (List.replicate n order) s := by
  intro v hv
  obtain ⟨m, rfl⟩ : ∃ m, n = k + (m + 1) := ⟨n - k - 1, by omega⟩
  rw [List.replicate_add, List.replicate_succ, visits_append, visits, horder]
  exact List.mem_append_right _ (List.mem_append_left _ hv)

/-- With a runner that keeps to its output path and a provider of new files, a batch is judged by
what its own call has left, whatever has been ordered before: no call but those of the visits is
made, and a batch without one has no result. So an order can be carried out again and again. If the
runner gives its reply to the files of a batch, standard output apart, whenever it is called, every
repetition ends in the same way. -/
theorem carryOut_owns_reports (hconfined : x.runner.Confined) :
    (∀ orders s, (∀ order ∈ orders, order.inTurn = true) → x.HandsOutNew (x.visits orders s) →
      (x.afterOrders orders s).calls =
        s.calls ++ (x.visits orders s).filterMap (Visit.call? x) ∧
      ∀ i v, (x.visits orders s)[i]? = some v →
        (∀ c, v.call? x = some c → OwnReport x (x.visits orders s) i v c) ∧
        (v.call? x = none → ∃ e, v.result x = .error e)) ∧
    ∀ order n s reply, order.inTurn = true →
      x.HandsOutNew (x.visits (List.replicate n order) s) →
      (∀ v ∈ x.visits (List.replicate n order) s, v.Follows x reply) →
      ∃ result, ∀ k < n,
        (x.carryOut (x.afterOrders (List.replicate k order) s) order).1 = result := by
  constructor
  · intro orders s hturn hnew
    refine ⟨calls_visits orders s hturn, fun i v hi => ⟨fun c hc => ?_, fun hc => ?_⟩⟩
    · exact hnew.ownReport hconfined (fun v hv => usable_of_mem_visits hv) hi hc
    · obtain ⟨hv, hb⟩ := usable_of_mem_visits (List.mem_of_getElem? hi)
      obtain ⟨e, s₁, -, heq⟩ := Visit.runBatch_of_no_call hv hb hc
      exact ⟨e, congrArg Prod.fst heq⟩
  · intro order n s reply hturn hnew hfollows
    have hresult : ∀ v ∈ x.visits (List.replicate n order) s,
        v.result x = located v.batch v.total (reply v.batch.files).verdict := by
      intro v hv
      obtain ⟨hvalid, hb⟩ := usable_of_mem_visits hv
      exact (hfollows v hv).result_eq hvalid hb (hnew.isNew v hv)
    refine ⟨(x.carryOut s order).1, fun k hk => ?_⟩
    rcases carryOut_eq_of_inTurn hturn x with ⟨-, text, heq⟩ | ⟨config, files, hinputs, heq⟩
    · rw [heq, heq]
    · have hvisits {k : Nat} (hk : k < n) v
          (hv : v ∈ x.visitsIn config files (x.afterOrders (List.replicate k order) s)) :=
        hresult v (visitsIn_subset hk hinputs s v hv)
      have hfirst : ∀ v ∈ x.visitsIn config files s, _ := hvisits (Nat.zero_lt_of_lt hk)
      rw [heq, heq]
      exact execute_congr (fun files => (reply files).verdict) (hvisits hk) hfirst

/-- A report is only written about the file `a`, and the standard output is never the same. The
output files are called `/a`, `/b` and so on, and nobody removes them. -/
def leaving : Executor Nat Nat where
  runner.run c _ k h :=
    if (namedFiles c).any (· = [97]) then
      (.ok { exitCode := some 1, stdout := toString k }, k + 1, { h with files :=
        (h.files.write c.output.path (Report.write [⟨"a", [{ message := "m" }]⟩])).2 })
    else (.ok { exitCode := some 0, stdout := toString k }, k + 1, h)
  provider.request n fs := (.ok ⟨[47, UInt8.ofNat (97 + n)], false⟩, n + 1, fs)

/-- The replies of `leaving`, but for the standard output. -/
def leavingReply (files : List Path) : Reply :=
  if files.any (· = [97]) then
    ⟨.ok { exitCode := some 1 }, .ok (Report.write [⟨"a", [{ message := "m" }]⟩])⟩
  else ⟨.ok { exitCode := some 0 }, .ok []⟩

/-- A session of `leaving` before anything has happened. -/
def leavingStart : Session Nat Nat := ⟨0, 0, { files := {} }, 0, []⟩

/-- Three files in two batches. -/
def threeFiles : Order := .execute paired [[97], [98], [99]]

theorem leaving_confined : leaving.runner.Confined := by
  intro c deadline k h
  simp only [leaving]
  split
  · exact ⟨FileSystem.workingDir_write .., fun l hl => FileSystem.node?_write_of_ne hl⟩
  · exact ⟨rfl, fun _ _ => rfl⟩

theorem leaving_handsOutNew :
    leaving.HandsOutNew (leaving.visits (List.replicate 2 threeFiles) leavingStart) where
  isNew := by decide +kernel
  distinct := by decide +kernel

theorem leaving_follows : ∀ v ∈ leaving.visits (List.replicate 2 threeFiles) leavingStart,
    v.Follows leaving leavingReply := by
  have houtput : ∀ v ∈ leaving.visits (List.replicate 2 threeFiles) leavingStart,
      ∃ o ∈ v.output? leaving, o.path.length ≤ Config.outputPathReserve := by
    decide +kernel
  have hagrees : ∀ v ∈ leaving.visits (List.replicate 2 threeFiles) leavingStart,
      ∀ c ∈ v.call? leaving,
        (v.reply leaving c).answer.map Outcome.quiet =
            (leavingReply v.batch.files).answer.map Outcome.quiet ∧
          (v.reply leaving c).report = (leavingReply v.batch.files).report := by
    decide +kernel
  exact fun v hv => ⟨houtput v hv, hagrees v hv⟩

/-- The same files are linted twice, in two batches each time. Both runs have the same result,
although the first report is still there when the second run begins. -/
theorem carryOut_leaving_owns_reports :
    (leaving.carryOut leavingStart threeFiles).2.host.files.read [47, 97] =
        .ok (Report.write [⟨"a", [{ message := "m" }]⟩]) ∧
      (∀ i v, (leaving.visits (List.replicate 2 threeFiles) leavingStart)[i]? = some v →
        (∀ c, v.call? leaving = some c →
          OwnReport leaving (leaving.visits (List.replicate 2 threeFiles) leavingStart) i v c) ∧
        (v.call? leaving = none → ∃ e, v.result leaving = .error e)) ∧
      ∃ result, ∀ k < 2, (leaving.carryOut
        (leaving.afterOrders (List.replicate k threeFiles) leavingStart) threeFiles).1 =
          result := by
  obtain ⟨hown, hagain⟩ := carryOut_owns_reports leaving_confined
  have hturn : ∀ order ∈ List.replicate 2 threeFiles, order.inTurn = true := by decide
  exact ⟨by decide +kernel, (hown _ leavingStart hturn leaving_handsOutNew).2,
    hagain threeFiles 2 leavingStart leavingReply rfl leaving_handsOutNew leaving_follows⟩

end Executor

end LintDispatch
