import LintDispatch.Proofs.Run.History
import LintDispatch.Run.Parallel

/-!
# Pools of workers
`Pool.Step` lists what a step of the work on a batch can be: the stage it starts from, what is done
for the batch, and the pool after it. A move is such a step, or a cancellation, or it changes
nothing (`Pool.move_cases`); later arguments go by the list and never look into the moves again.

`Pool.Sound` is what every move keeps, whatever the schedule. The history of the pool tells of each
batch what its stage says (`Stage.Holds`), a mark of a failure comes with a failed batch and a batch
is only skipped after the mark, and nobody has counted more batches than have been linted
(`Sound.step`, `Sound.follow`). Each step brings its batch on by a stage, so what a schedule has
left undone can be finished after it: then the work on every batch is over
(`isFinal_follow_remaining`).
-/

namespace LintDispatch

variable {ρ τ : Type}

namespace Stage

/-- What has been done for a batch, one of `total`, that has come to a stage. -/
inductive Holds (config : Config) (total : Nat) (b : Batch) : Stage → List Deed → Prop
  | waiting : Holds config total b .waiting []
  | unmarked : Holds config total b .unmarked []
  | taken (completed : Nat) : Holds config total b (.taken completed) []
  | cleared : Holds config total b .cleared [.check false]
  | prepared (o : OutputFile) (fits : (b.command config o).overlong config = false) :
      Holds config total b (.prepared (b.command config o)) [.check false, .ask (.ok o)]
  | performed (o : OutputFile) (outcome : Outcome) (files : FileSystem)
      (fits : (b.command config o).overlong config = false) :
      Holds config total b (.performed (b.command config o) outcome)
        [.check false, .ask (.ok o), .call (b.call config o) (.ok outcome) files]
  | done {r : Except Failure (List Issue)} {ds : List Deed} (fate : b.Fate config total r ds) :
      Holds config total b (.done r) ds
  | settled {r : Except Failure (List Issue)} {ds : List Deed} (fate : b.Fate config total r ds) :
      Holds config total b (.settled r) ds
  | skipped : Holds config total b .skipped []

/-- The batch has been linted, and that is known. -/
def succeeded : Stage → Bool
  | settled (.ok _) => true
  | _ => false

/-- The batch has failed, and that is known. -/
def hasFailed : Stage → Bool
  | settled (.error _) => true
  | _ => false

/-- How many batches had been linted when that was last asked for the sake of this one. -/
def seen? : Stage → Option Nat
  | taken completed => some completed
  | done (.error (.cancelled completed)) => some completed
  | settled (.error (.cancelled completed)) => some completed
  | _ => none

/-- The stages in the order in which a batch comes to them. -/
def rank : Stage → Nat
  | waiting => 0
  | unmarked => 1
  | taken _ => 2
  | cleared => 3
  | prepared _ => 4
  | performed _ _ => 5
  | done _ => 6
  | settled _ => 7
  | skipped => 7

theorem isFinal_iff {st : Stage} : st.isFinal = true ↔ 7 ≤ st.rank := by
  cases st <;> simp [isFinal, rank]

theorem underWay_of_isFinal {st : Stage} (h : st.isFinal = true) : st.underWay = false := by
  cases st with
  | settled r => rfl
  | skipped => rfl
  | _ => simp [isFinal] at h

theorem seen?_done_located (b : Batch) (total : Nat) (r : Except Failure (List Issue)) :
    (done (Executor.located b total r)).seen? = none := by
  cases r <;> rfl

end Stage

namespace Pool

/-- The pool with the batch at an index come to another stage, and with another session. -/
def next (p : Pool ρ τ) (i : Nat) (st : Stage) (s : Session ρ τ) : Pool ρ τ where
  session := s
  stages := p.stages.set i st
  failed := st.hasFailed || p.failed
  completed := p.completed + bif st.succeeded then 1 else 0

/-- A step of the work on a batch, one of `total`: the stage it starts from, what is done, and the
stage and the session after it. -/
inductive Step (x : Executor ρ τ) (config : Config) (total : Nat) (b : Batch) (p : Pool ρ τ) :
    Stage → List Deed → Stage → Session ρ τ → Prop
  | skip (failed : p.failed = true) : Step x config total b p .waiting [] .skipped p.session
  | take (unmarked : p.failed = false) :
      Step x config total b p .waiting [] .unmarked p.session
  | count : Step x config total b p .unmarked [] (.taken p.completed) p.session
  | stop {completed : Nat} (stopped : x.stopped p.session = true) :
      Step x config total b p (.taken completed) [.check true]
        (.done (.error (.cancelled completed))) p.session
  | go {completed : Nat} (going : x.stopped p.session = false) :
      Step x config total b p (.taken completed) [.check false] .cleared p.session
  | refuse {e : HostError} {s : Session ρ τ} (request : x.request p.session = (.error e, s)) :
      Step x config total b p .cleared [.ask (.error e)]
        (.done (Executor.located b total (.error (.io e)))) s
  | reject {o : OutputFile} {s : Session ρ τ} (request : x.request p.session = (.ok o, s))
      (overlong : (b.command config o).overlong config = true) :
      Step x config total b p .cleared [.ask (.ok o), .release o]
        (.done (Executor.located b total
          (.error (.invalidConfiguration ((b.command config o).overlongText config)))))
        (s.release o)
  | prepare {o : OutputFile} {s : Session ρ τ} (request : x.request p.session = (.ok o, s))
      (fits : (b.command config o).overlong config = false) :
      Step x config total b p .cleared [.ask (.ok o)] (.prepared (b.command config o)) s
  | crash {c : Command} {e : Failure} {s : Session ρ τ}
      (launch : x.launch c (config.deadline b.files.length) p.session = (.error e, s)) :
      Step x config total b p (.prepared c)
        [.call ⟨c, config.deadline b.files.length⟩ (.error e) s.host.files, .release c.output]
        (.done (Executor.located b total (.error e))) (s.release c.output)
  | run {c : Command} {outcome : Outcome} {s : Session ρ τ}
      (launch : x.launch c (config.deadline b.files.length) p.session = (.ok outcome, s)) :
      Step x config total b p (.prepared c)
        [.call ⟨c, config.deadline b.files.length⟩ (.ok outcome) s.host.files]
        (.performed c outcome) s
  | unread {c : Command} {outcome : Outcome} {e : HostError}
      (read : c.output.read p.session.host.files = .error e) :
      Step x config total b p (.performed c outcome)
        [.read c.output (.error e), .release c.output]
        (.done (Executor.located b total (.error (.io e)))) (p.session.release c.output)
  | judge {c : Command} {outcome : Outcome} {report : Option Bytes}
      (read : c.output.read p.session.host.files = .ok report) :
      Step x config total b p (.performed c outcome)
        [.read c.output (.ok report), .release c.output]
        (.done (Executor.located b total (outcome.interpret (report.getD []))))
        (p.session.release c.output)
  | settle {r : Except Failure (List Issue)} :
      Step x config total b p (.done r) [] (.settled r) p.session

variable {x : Executor ρ τ} {config : Config} {workers total : Nat} {b : Batch} {i : Nat}
  {batches : List Batch} {s : Session ρ τ} {p : Pool ρ τ} {st st' : Stage} {ds : List Deed}
  {s' : Session ρ τ} {h : History}

/-- The work on a batch takes one of the steps, until it is over. -/
theorem step_work (hv : config.Valid) (hb : b.files ≠ []) (x : Executor ρ τ) (total i : Nat)
    (p : Pool ρ τ) (hst : st.isFinal = false) :
    ∃ ds st' s', Step x config total b p st ds st' s' ∧
      work x config total b i p st = p.next i st' s' := by
  cases st with
  | waiting =>
    rw [work]
    cases hfailed : p.failed with
    | true => exact ⟨_, _, _, .skip hfailed, by simp [setStage, next, hfailed, Stage.succeeded]⟩
    | false => exact ⟨_, _, _, .take hfailed, by
      simp [setStage, next, hfailed, Stage.hasFailed, Stage.succeeded]⟩
  | unmarked => exact ⟨_, _, _, .count, rfl⟩
  | taken completed =>
    rw [work]
    cases hstop : x.stopped p.session with
    | true => exact ⟨_, _, _, .stop hstop, rfl⟩
    | false => exact ⟨_, _, _, .go hstop, rfl⟩
  | cleared =>
    rw [work, Executor.prepare_eq hv hb]
    rcases hreq : x.request p.session with ⟨e | o, s⟩
    · exact ⟨_, _, _, .refuse hreq, rfl⟩
    · cases hfit : (Command.ofBatch config o b.files).overlong config with
      | true =>
        simp only [hfit, if_true]
        exact ⟨_, _, _, .reject hreq hfit, rfl⟩
      | false =>
        simp only [hfit, Bool.false_eq_true, if_false]
        exact ⟨_, _, _, .prepare hreq hfit, rfl⟩
  | prepared c =>
    rw [work, Executor.perform]
    rcases hrun : x.launch c (config.deadline b.files.length) p.session with ⟨e | outcome, s⟩
    · exact ⟨_, _, _, .crash hrun, rfl⟩
    · exact ⟨_, _, _, .run hrun, rfl⟩
  | performed c outcome =>
    rw [work, Executor.collect]
    cases hread : c.output.read p.session.host.files with
    | error e => exact ⟨_, _, _, .unread hread, rfl⟩
    | ok report => exact ⟨_, _, _, .judge hread, rfl⟩
  | done r =>
    rcases r with e | issues
    · exact ⟨_, _, _, .settle, rfl⟩
    · exact ⟨_, _, _, .settle, rfl⟩
  | settled r => simp [Stage.isFinal] at hst
  | skipped => simp [Stage.isFinal] at hst

/-- Advancing a batch is a step of the work on it, and if it was waiting it may be taken; or it
changes nothing. -/
theorem advance_cases (hv : config.Valid) (hne : ∀ b ∈ batches, b.files ≠ []) (x : Executor ρ τ)
    (workers : Nat) (p : Pool ρ τ) (i : Nat) :
    move x config workers batches p (.advance i) = p ∨
      ∃ b st ds st' s', batches[i]? = some b ∧ p.stages[i]? = some st ∧
        (st = .waiting → p.mayTake workers i = true) ∧
        Step x config batches.length b p st ds st' s' ∧
        move x config workers batches p (.advance i) = p.next i st' s' := by
  rw [move]
  rcases hbatch : batches[i]? with _ | b
  · exact Or.inl rfl
  rcases hstage : p.stages[i]? with _ | st
  · exact Or.inl rfl
  have hwork : st.isFinal = false → _ :=
    step_work hv (hne b (List.mem_of_getElem? hbatch)) x batches.length i p
  cases st with
  | waiting =>
    simp only
    split
    case isTrue hmay =>
      obtain ⟨ds, st', s', hstep, heq⟩ := hwork rfl
      exact Or.inr ⟨b, _, ds, st', s', rfl, rfl, fun _ => hmay, hstep, heq⟩
    case isFalse => exact Or.inl rfl
  | settled r => exact Or.inl rfl
  | skipped => exact Or.inl rfl
  | unmarked | taken | cleared | prepared | performed | done =>
    obtain ⟨ds, st', s', hstep, heq⟩ := hwork rfl
    exact Or.inr ⟨b, _, ds, st', s', rfl, rfl, by simp, hstep, heq⟩

/-- A move works on a batch, or cancels the run, or changes nothing. -/
theorem move_cases (hv : config.Valid) (hne : ∀ b ∈ batches, b.files ≠ []) (x : Executor ρ τ)
    (workers : Nat) (p : Pool ρ τ) (m : Move) :
    move x config workers batches p m = p ∨
      (m = .cancel ∧ move x config workers batches p m =
        { p with session := { p.session with host := { p.session.host with cancelled := true } } })
      ∨ ∃ i b st ds st' s', batches[i]? = some b ∧ p.stages[i]? = some st ∧
        Step x config batches.length b p st ds st' s' ∧
        move x config workers batches p m = p.next i st' s' := by
  cases m with
  | cancel => exact Or.inr (Or.inl ⟨rfl, rfl⟩)
  | advance i =>
    rcases advance_cases hv hne x workers p i with
      heq | ⟨b, st, ds, st', s', hb, hi, -, step, heq⟩
    · exact Or.inl heq
    · exact Or.inr (Or.inr ⟨i, b, st, ds, st', s', hb, hi, step, heq⟩)

/-! ## What a step keeps -/

theorem Step.acts (step : Step x config total b p st ds st' s') : x.Acts p.session ds s' := by
  cases step with
  | skip | take | count | settle => exact .nil _
  | stop stopped =>
    rw [← stopped]
    exact .cons .check (.nil _)
  | go going =>
    rw [← going]
    exact .cons .check (.nil _)
  | refuse request | prepare request => exact .cons (.ask request) (.nil _)
  | reject request => exact .cons (.ask request) (.cons (.release _) (.nil _))
  | crash launch =>
    exact .cons (.call launch) (.cons (.release _) (.nil _))
  | run launch => exact .cons (.call launch) (.nil _)
  | unread read | judge read =>
    rw [← read]
    exact .cons (.read _) (.cons (.release _) (.nil _))

/-- What has been done for a batch goes with its stage. -/
theorem Step.holds {before : List Deed} (step : Step x config total b p st ds st' s')
    (hst : st.Holds config total b before) : st'.Holds config total b (before ++ ds) := by
  cases step with
  | skip => cases hst; exact .skipped
  | take => cases hst; exact .unmarked
  | count => cases hst; exact .taken _
  | stop => cases hst; exact .done (.cancelled _)
  | go => cases hst; exact .cleared
  | refuse => cases hst; exact .done (.refused _)
  | reject request overlong => cases hst; exact .done (.rejected _ overlong)
  | prepare request fits => cases hst; exact .prepared _ fits
  | crash =>
    cases hst with
    | prepared o fits => exact .done (.crashed o _ _ fits)
  | run =>
    cases hst with
    | prepared o fits => exact .performed o _ _ fits
  | unread =>
    cases hst with
    | performed o outcome files fits => exact .done (.unread o _ files _ fits)
  | judge =>
    cases hst with
    | performed o outcome files fits => exact .done (.judged o _ files _ fits)
  | settle =>
    cases hst with
    | done fate => exact .settled (by simpa using fate)

theorem Step.rank_lt (step : Step x config total b p st ds st' s') : st.rank < st'.rank := by
  cases step <;> simp [Stage.rank]

theorem Step.succeeded_eq_false (step : Step x config total b p st ds st' s') :
    st.succeeded = false := by
  cases step <;> rfl

theorem Step.hasFailed_eq_false (step : Step x config total b p st ds st' s') :
    st.hasFailed = false := by
  cases step <;> rfl

theorem Step.failed_of_skipped (step : Step x config total b p st ds .skipped s') :
    p.failed = true := by
  cases step with
  | skip failed => exact failed

theorem Step.seen (step : Step x config total b p st ds st' s') :
    ∀ c ∈ st'.seen?, c ∈ st.seen? ∨ c = p.completed := by
  cases step with
  | count => simp [Stage.seen?]
  | @settle r =>
    rcases r with e | issues
    · cases e <;> simp [Stage.seen?]
    · simp [Stage.seen?]
  | judge =>
    rw [Stage.seen?_done_located]
    simp
  | _ => simp [Stage.seen?, Executor.located, Except.mapError, Failure.inBatch]

/-- What the moves of a run from the session `s` keep: the pool and the history go together. -/
structure Sound (x : Executor ρ τ) (config : Config) (batches : List Batch) (s : Session ρ τ)
    (p : Pool ρ τ) (h : History) : Prop where
  leads : x.Leads s h p.session
  length_eq : p.stages.length = batches.length
  /-- What has been done for a batch is what its stage says. -/
  holds : ∀ i b (st : Stage), batches[i]? = some b → p.stages[i]? = some st →
    st.Holds config batches.length b (h.of i)
  /-- Nothing has been done for anything but the batches. -/
  ours : ∀ i, batches[i]? = none → h.of i = []
  marked : p.failed = true → ∃ st ∈ p.stages, st.hasFailed = true
  skipped : .skipped ∈ p.stages → p.failed = true
  completed_le : p.completed ≤ p.stages.countP Stage.succeeded
  seen_le : ∀ st ∈ p.stages, ∀ c ∈ st.seen?, c ≤ p.completed

theorem Sound.cancel (sound : Sound x config batches s p h) :
    Sound x config batches s
      { p with session := { p.session with host := { p.session.host with cancelled := true } } }
      (h ++ [.cancel]) where
  leads := sound.leads.cancel
  length_eq := sound.length_eq
  holds i b st hb hst := by
    rw [History.of_append, History.of_cancel, List.append_nil]
    exact sound.holds i b st hb hst
  ours i hi := by
    rw [History.of_append, History.of_cancel, List.append_nil]
    exact sound.ours i hi
  marked := sound.marked
  skipped := sound.skipped
  completed_le := sound.completed_le
  seen_le := sound.seen_le

theorem countP_succeeded_set {stages : List Stage} (hi : stages[i]? = some st)
    (hst : st.succeeded = false) (st' : Stage) :
    (stages.set i st').countP Stage.succeeded =
      stages.countP Stage.succeeded + bif st'.succeeded then 1 else 0 := by
  obtain ⟨hlt, rfl⟩ := List.getElem?_eq_some_iff.mp hi
  rw [List.countP_set hlt, hst]
  cases st'.succeeded <;> simp

theorem Sound.step (sound : Sound x config batches s p h) (hb : batches[i]? = some b)
    (hi : p.stages[i]? = some st) (step : Step x config batches.length b p st ds st' s') :
    Sound x config batches s (p.next i st' s') (h ++ History.ofDeeds i ds) where
  leads := sound.leads.append_acts i step.acts
  length_eq := (List.length_set).trans sound.length_eq
  holds j c stc hc hstc := by
    rw [History.of_append]
    by_cases hij : i = j
    · subst hij
      obtain rfl : b = c := Option.some.inj (hb.symm.trans hc)
      rw [next, List.getElem?_set_self (List.getElem?_eq_some_iff.mp hi).1] at hstc
      obtain rfl : st' = stc := Option.some.inj hstc
      rw [History.of_ofDeeds_self]
      exact step.holds (sound.holds i b st hb hi)
    · rw [next, List.getElem?_set_ne hij] at hstc
      rw [History.of_ofDeeds_of_ne hij, List.append_nil]
      exact sound.holds j c stc hc hstc
  ours j hj := by
    have hij : i ≠ j := by
      rintro rfl
      exact absurd (hb.symm.trans hj) (by simp)
    rw [History.of_append, History.of_ofDeeds_of_ne hij, List.append_nil]
    exact sound.ours j hj
  marked hfailed := by
    have hlt := (List.getElem?_eq_some_iff.mp hi).1
    by_cases hst' : st'.hasFailed = true
    · exact ⟨st', List.mem_set hlt st', hst'⟩
    have hfailed : p.failed = true := by simpa [next, hst'] using hfailed
    obtain ⟨st₀, hmem, hst₀⟩ := sound.marked hfailed
    obtain ⟨j, hj⟩ := List.mem_iff_getElem?.mp hmem
    -- a batch that is still worked on has not failed
    have hij : i ≠ j := by
      rintro rfl
      obtain rfl : st = st₀ := Option.some.inj (hi.symm.trans hj)
      exact absurd (step.hasFailed_eq_false.symm.trans hst₀) (by simp)
    exact ⟨st₀, List.mem_iff_getElem?.mpr ⟨j, by rw [next, List.getElem?_set_ne hij, hj]⟩, hst₀⟩
  skipped hmem := by
    have hfailed : p.failed = true := by
      rcases List.mem_or_eq_of_mem_set hmem with hmem | rfl
      · exact sound.skipped hmem
      · exact step.failed_of_skipped
    simp [next, hfailed]
  completed_le := by
    rw [next, countP_succeeded_set hi step.succeeded_eq_false]
    exact Nat.add_le_add_right sound.completed_le _
  seen_le := by
    intro st₀ hmem c hc
    refine Nat.le_trans ?_ (Nat.le_add_right _ _)
    rcases List.mem_or_eq_of_mem_set hmem with hmem | rfl
    · exact sound.seen_le st₀ hmem c hc
    · rcases step.seen c hc with hc | rfl
      · exact sound.seen_le st (List.mem_of_getElem? hi) c hc
      · exact Nat.le_refl _

theorem follow_cons (x : Executor ρ τ) (config : Config) (workers : Nat) (batches : List Batch)
    (p : Pool ρ τ) (m : Move) (schedule : Schedule) :
    p.follow x config workers batches (m :: schedule) =
      (p.move x config workers batches m).follow x config workers batches schedule := rfl

theorem follow_append (x : Executor ρ τ) (config : Config) (workers : Nat) (batches : List Batch)
    (p : Pool ρ τ) (schedule more : Schedule) :
    p.follow x config workers batches (schedule ++ more) =
      (p.follow x config workers batches schedule).follow x config workers batches more :=
  List.foldl_append

/-- Every move keeps the pool and its history together, and only a cancellation is told as one. -/
theorem Sound.move (hv : config.Valid) (hne : ∀ b ∈ batches, b.files ≠ [])
    (sound : Sound x config batches s p h) (workers : Nat) (m : Move) :
    ∃ more, Sound x config batches s (p.move x config workers batches m) (h ++ more) ∧
      (m ≠ .cancel → Event.cancel ∉ more) := by
  rcases move_cases hv hne x workers p m with
    heq | ⟨rfl, heq⟩ | ⟨i, b, st, ds, st', s', hb, hi, step, heq⟩
  · refine ⟨[], ?_, by simp⟩
    rw [heq, List.append_nil]
    exact sound
  · rw [heq]
    exact ⟨_, sound.cancel, by simp⟩
  · rw [heq]
    exact ⟨_, sound.step hb hi step, fun _ => by simp [History.ofDeeds]⟩

theorem Sound.follow (hv : config.Valid) (hne : ∀ b ∈ batches, b.files ≠ []) (workers : Nat) :
    ∀ (schedule : Schedule) (p : Pool ρ τ) (h : History), Sound x config batches s p h →
      ∃ more, Sound x config batches s (p.follow x config workers batches schedule) (h ++ more) ∧
        (Move.cancel ∉ schedule → Event.cancel ∉ more)
  | [], p, h, sound => ⟨[], (List.append_nil h).symm ▸ sound, by simp⟩
  | m :: schedule, p, h, sound => by
    obtain ⟨more, hmove, hcalm⟩ := sound.move hv hne workers m
    obtain ⟨rest, hrest, hcalm'⟩ := Sound.follow hv hne workers schedule _ _ hmove
    refine ⟨more ++ rest, by rw [follow_cons, ← List.append_assoc]; exact hrest, fun hmem => ?_⟩
    rw [List.mem_cons, not_or] at hmem
    rw [List.mem_append, not_or]
    exact ⟨hcalm (Ne.symm hmem.1), hcalm' hmem.2⟩

theorem sound_start (x : Executor ρ τ) (config : Config) (batches : List Batch)
    (s : Session ρ τ) :
    Sound x config batches s ⟨s, batches.map fun _ => .waiting, false, 0⟩ [] where
  leads := .nil
  length_eq := List.length_map _
  holds i b st hb hst := by
    obtain rfl : Stage.waiting = st := by
      rw [List.getElem?_map, hb] at hst
      exact Option.some.inj hst
    exact .waiting
  ours i _ := rfl
  marked hfailed := by simp at hfailed
  skipped hmem := by simp at hmem
  completed_le := Nat.zero_le _
  seen_le st hst := by
    obtain ⟨b, -, rfl⟩ := List.mem_map.mp hst
    simp [Stage.seen?]

/-! ## Every batch comes to its end -/

theorem work_of_isFinal (hst : st.isFinal = true) : work x config total b i p st = p := by
  cases st with
  | settled r => rfl
  | skipped => rfl
  | _ => simp [Stage.isFinal] at hst

/-- A worker does the next piece of work on a batch, if the batch may be taken at all. -/
theorem move_advance (hb : batches[i]? = some b) (hi : p.stages[i]? = some st)
    (hmay : st = .waiting → p.mayTake workers i = true) :
    p.move x config workers batches (.advance i) = work x config batches.length b i p st := by
  rw [move]
  cases st with
  | waiting => simp [hb, hi, hmay rfl]
  | _ => simp [hb, hi]

/-- Working `k` times on a batch that may be taken brings it on by `k` stages, and no other one. -/
theorem follow_replicate (hv : config.Valid) (hne : ∀ b ∈ batches, b.files ≠ [])
    (hb : batches[i]? = some b) :
    ∀ (k : Nat) (p : Pool ρ τ) (st : Stage), p.stages[i]? = some st →
      (st = .waiting → p.mayTake workers i = true) →
      ∃ st', (p.follow x config workers batches (List.replicate k (.advance i))).stages =
        p.stages.set i st' ∧ min 7 (st.rank + k) ≤ st'.rank
  | 0, p, st, hi, _ => by
    obtain ⟨hlt, rfl⟩ := List.getElem?_eq_some_iff.mp hi
    exact ⟨p.stages[i], (List.set_getElem_self hlt).symm, Nat.min_le_right _ _⟩
  | k + 1, p, st, hi, hmay => by
    rw [List.replicate_succ, follow_cons, move_advance hb hi hmay]
    have hlt := (List.getElem?_eq_some_iff.mp hi).1
    by_cases hfinal : st.isFinal = true
    · rw [work_of_isFinal hfinal]
      obtain ⟨st', heq, hrank⟩ := follow_replicate hv hne hb k p st hi hmay
      exact ⟨st', heq, by have := Stage.isFinal_iff.mp hfinal; omega⟩
    · obtain ⟨ds, st₁, s', step, heq⟩ := step_work hv (hne b (List.mem_of_getElem? hb)) x
        batches.length i p (by simpa using hfinal)
      have hrank := step.rank_lt
      have hi₁ : (p.next i st₁ s').stages[i]? = some st₁ := List.getElem?_set_self hlt
      have hne₁ : st₁ ≠ .waiting := by
        rintro rfl
        exact Nat.not_lt_zero _ hrank
      obtain ⟨st', hst', hle⟩ := follow_replicate hv hne hb k _ st₁ hi₁ (absurd · hne₁)
      rw [heq]
      refine ⟨st', ?_, by omega⟩
      rw [hst', next, List.set_set]

theorem follow_finishing (hv : config.Valid) (hne : ∀ b ∈ batches, b.files ≠ [])
    (x : Executor ρ τ) (workers : Nat)
    (hlen : p.stages.length = batches.length) (hi : p.stages[i]? = some st)
    (hmay : st = .waiting → p.mayTake workers i = true) :
    ∃ st', (p.follow x config workers batches (finishing i)).stages = p.stages.set i st' ∧
      st'.isFinal = true := by
  have hlt : i < batches.length := hlen ▸ (List.getElem?_eq_some_iff.mp hi).1
  obtain ⟨st', heq, hrank⟩ := follow_replicate (x := x) hv hne
    (List.getElem?_eq_some_iff.mpr ⟨hlt, rfl⟩) 7 p st hi hmay
  exact ⟨st', heq, Stage.isFinal_iff.mpr (by omega)⟩

/-- Batches that have been taken are brought to their end, and the others stay as they are. -/
theorem follow_taken (hv : config.Valid) (hne : ∀ b ∈ batches, b.files ≠ [])
    (x : Executor ρ τ) (workers : Nat) :
    ∀ (is : List Nat) (p : Pool ρ τ), p.stages.length = batches.length →
      (∀ i ∈ is, ∃ st, p.stages[i]? = some st ∧ st ≠ .waiting) →
      (p.follow x config workers batches (is.flatMap finishing)).stages.length = batches.length ∧
        ∀ j st, (p.follow x config workers batches (is.flatMap finishing)).stages[j]? = some st →
          st.isFinal = true ∨ j ∉ is ∧ p.stages[j]? = some st
  | [], p, hlen, _ => ⟨hlen, fun j st hj => Or.inr ⟨by simp, hj⟩⟩
  | i :: is, p, hlen, hready => by
    obtain ⟨⟨st, hi, hst⟩, hready⟩ := List.forall_mem_cons.mp hready
    obtain ⟨st', heq, hfinal⟩ := follow_finishing hv hne x workers hlen hi
      (absurd · hst)
    rw [List.flatMap_cons, follow_append]
    generalize p.follow x config workers batches (finishing i) = p₁ at heq ⊢
    have hlt := (List.getElem?_eq_some_iff.mp hi).1
    have hself : p₁.stages[i]? = some st' := by rw [heq, List.getElem?_set_self hlt]
    have hother : ∀ j, j ≠ i → p₁.stages[j]? = p.stages[j]? := fun j hj => by
      rw [heq, List.getElem?_set_ne (Ne.symm hj)]
    have hlen₁ : p₁.stages.length = batches.length := by rw [heq, List.length_set, hlen]
    obtain ⟨hlen', hrest⟩ := follow_taken hv hne x workers is p₁ hlen₁ fun j hj => by
      by_cases hij : j = i
      · subst hij
        refine ⟨st', hself, ?_⟩
        rintro rfl
        simp [Stage.isFinal] at hfinal
      · rw [hother j hij]
        exact hready j hj
    refine ⟨hlen', fun j stj hj => ?_⟩
    rcases hrest j stj hj with hj | ⟨hmem, hj⟩
    · exact Or.inl hj
    · by_cases hij : j = i
      · subst hij
        obtain rfl : st' = stj := Option.some.inj (hself.symm.trans hj)
        exact Or.inl hfinal
      · rw [hother j hij] at hj
        exact Or.inr ⟨by simp [hij, hmem], hj⟩

/-- When no batch is under way, the waiting ones are brought to their end in order. -/
theorem follow_waiting (hv : config.Valid) (hne : ∀ b ∈ batches, b.files ≠ [])
    (hworkers : 0 < workers) (hlen : p.stages.length = batches.length)
    (hidle : ∀ st ∈ p.stages, st.underWay = false) :
    ∀ k ≤ batches.length,
      (p.follow x config workers batches ((List.range k).flatMap finishing)).stages.length =
        batches.length ∧
      ∀ j st, (p.follow x config workers batches ((List.range k).flatMap finishing)).stages[j]? =
        some st → st.underWay = false ∧ (j < k → st.isFinal = true)
  | 0, _ => ⟨hlen, fun j st hj => ⟨hidle st (List.mem_of_getElem? hj), by simp⟩⟩
  | k + 1, hk => by
    obtain ⟨hlen', hidle'⟩ := follow_waiting hv hne hworkers hlen hidle k (Nat.le_of_succ_le hk)
    rw [List.range_succ, List.flatMap_append, List.flatMap_singleton, follow_append]
    generalize p.follow x config workers batches ((List.range k).flatMap finishing) = p₁ at *
    have hlt : k < p₁.stages.length := by omega
    have hmay : p₁.mayTake workers k = true := by
      have hcount : p₁.stages.countP Stage.underWay = 0 := by
        rw [List.countP_eq_zero]
        intro st hst
        obtain ⟨j, hj⟩ := List.mem_iff_getElem?.mp hst
        simp [(hidle' j st hj).1]
      have hbefore : (p₁.stages.take k).all Stage.isFinal = true := by
        rw [List.all_eq_true]
        intro st hst
        obtain ⟨j, hj⟩ := List.mem_iff_getElem?.mp hst
        rw [List.getElem?_take] at hj
        split at hj
        · exact (hidle' j st hj).2 ‹_›
        · simp at hj
      simp [mayTake, hcount, hbefore, hworkers]
    obtain ⟨st', heq, hfinal⟩ := follow_finishing hv hne x workers hlen'
      (List.getElem?_eq_getElem hlt) fun _ => hmay
    rw [heq]
    refine ⟨by rw [List.length_set, hlen'], fun j st hj => ?_⟩
    by_cases hkj : k = j
    · subst hkj
      obtain rfl : st' = st := by
        rw [List.getElem?_set_self hlt] at hj
        exact Option.some.inj hj
      exact ⟨Stage.underWay_of_isFinal hfinal, fun _ => hfinal⟩
    · rw [List.getElem?_set_ne hkj] at hj
      exact ⟨(hidle' j st hj).1, fun hjk => (hidle' j st hj).2 (by omega)⟩

/-- What remains to be done brings every batch to its end. -/
theorem isFinal_follow_remaining (hv : config.Valid) (hne : ∀ b ∈ batches, b.files ≠ [])
    (hworkers : 0 < workers) (hlen : p.stages.length = batches.length) :
    ∀ st ∈ (p.follow x config workers batches p.remaining).stages, st.isFinal = true := by
  rw [remaining, follow_append]
  have hready :
      ∀ i ∈ (List.range p.stages.length).filter fun i => p.stages[i]?.any Stage.underWay,
        ∃ st, p.stages[i]? = some st ∧ st ≠ .waiting := by
    intro i hi
    obtain ⟨st, hst, hunder⟩ := (Option.any_eq_true _ _).mp (List.mem_filter.mp hi).2
    refine ⟨st, hst, ?_⟩
    rintro rfl
    simp [Stage.underWay] at hunder
  obtain ⟨hlen₁, hcases⟩ := follow_taken hv hne x workers _ p hlen hready
  generalize hp₁ : p.follow x config workers batches _ = p₁ at hlen₁ hcases ⊢
  have hidle : ∀ st ∈ p₁.stages, st.underWay = false := by
    intro st hst
    obtain ⟨j, hj⟩ := List.mem_iff_getElem?.mp hst
    rcases hcases j st hj with hfinal | ⟨hmem, hj⟩
    · exact Stage.underWay_of_isFinal hfinal
    · obtain ⟨hlt, rfl⟩ := List.getElem?_eq_some_iff.mp hj
      simpa [hlt] using hmem
  rw [hlen, ← hlen₁]
  intro st hst
  obtain ⟨j, hj⟩ := List.mem_iff_getElem?.mp hst
  obtain ⟨hlen₂, hfinal⟩ := follow_waiting (x := x) hv hne hworkers hlen₁ hidle _ (Nat.le_refl _)
  have hlt := (List.getElem?_eq_some_iff.mp hj).1
  exact (hfinal j st (by rw [← hlen₁]; exact hj)).2 (by rw [hlen₁, hlen₂] at hlt; exact hlt)

end Pool

end LintDispatch
