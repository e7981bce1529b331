import LintDispatch.Proofs.Run.Sequential
import Mathlib.Data.List.Perm.Basic

/-!
# Histories of a run
A history lists what was done for the batches of a run, in the order in which it was done: whether
the run has been cancelled is asked, output files are asked for, commands run, reports are read and
output files released. Each entry is labelled with the position of its batch, so that the work on
several batches may be mixed. `Executor.Leads` says that a history is what took one session to
another one; the requests and the calls of the sessions are those of the history (`Leads.record`).

`Batch.Fate` lists the lives that a batch can have, each with the result it leads to. A run accounts
for its batches (`Executor.Accounts`) if every batch of the plan has had such a life, or was left
out and nothing was done for it, and the result of the run is what these lives make of it: all of
them were successes, or it is the failure of the first batch in the order of the plan that failed.
`execute_accounts`: a run batch after batch accounts for its batches, and its history holds one life
after the other.
-/

namespace LintDispatch

variable {ρ τ : Type}

/-- Something that is done for a batch, and what comes of it. -/
inductive Deed where
  /-- It is asked whether the run has been cancelled. -/
  | check (stopped : Bool)
  /-- An output file is asked for. -/
  | ask (answer : Except HostError OutputFile)
  /-- A command runs, and these are the files right after it. -/
  | call (call : Call) (answer : Except Failure Outcome) (files : FileSystem)
  /-- A report is read. -/
  | read (output : OutputFile) (answer : Except HostError (Option Bytes))
  /-- An output file is released. -/
  | release (output : OutputFile)

/-- Something that happens during a run. -/
inductive Event where
  /-- Somebody cancels the run. -/
  | cancel
  /-- Something is done for the batch at a position of the plan. -/
  | deed (batch : Nat) (deed : Deed)

/-- What happens during a run, in order. -/
abbrev History := List Event

namespace Deed

/-- An output file is asked for. -/
def isAsk : Deed → Bool
  | ask _ => true
  | _ => false

/-- The call of the runner. -/
def call? : Deed → Option Call
  | call c _ _ => some c
  | _ => none

end Deed

namespace Event

/-- The deed of an event, whatever batch it is for. -/
def deed? : Event → Option Deed
  | cancel => none
  | deed _ d => some d

/-- The deed of an event, if it is one for the batch at this position. -/
def deedFor? (i : Nat) : Event → Option Deed
  | cancel => none
  | deed j d => if j = i then some d else none

/-- An output file is asked for. -/
def isAsk : Event → Bool
  | cancel => false
  | deed _ d => d.isAsk

/-- The call of the runner. -/
def call? : Event → Option Call
  | cancel => none
  | deed _ d => d.call?

end Event

namespace History

/-- What is done for the batch at a position. -/
def of (i : Nat) (h : History) : List Deed := h.filterMap (Event.deedFor? i)

/-- What is done for any batch. -/
def deeds (h : History) : List Deed := h.filterMap Event.deed?

/-- The calls of the runner, in order. -/
def calls (h : History) : List Call := h.filterMap Event.call?

/-- The history in which all this is done for one batch. -/
def ofDeeds (i : Nat) (ds : List Deed) : History := ds.map (.deed i)

/-- The history of batches that come one after the other, the first of them at position `i`. -/
def inTurn (i : Nat) : List (List Deed) → History
  | [] => []
  | ds :: lives => ofDeeds i ds ++ inTurn (i + 1) lives

/-- The last event belongs to the second of two parts, unless that is empty. -/
theorem snoc_eq_append {h before after : History} {e : Event} (heq : h ++ [e] = before ++ after) :
    before = h ++ [e] ∨ ∃ after', h = before ++ after' := by
  rcases after.eq_nil_or_concat with rfl | ⟨after, e', rfl⟩
  · exact Or.inl (by simpa using heq.symm)
  · rw [List.concat_eq_append, ← List.append_assoc] at heq
    exact Or.inr ⟨after, (List.append_inj' heq rfl).1⟩

@[simp] theorem of_nil (i : Nat) : of i [] = [] := rfl

@[simp] theorem of_append (i : Nat) (h h' : History) : of i (h ++ h') = of i h ++ of i h' :=
  List.filterMap_append

@[simp] theorem of_ofDeeds_self (i : Nat) (ds : List Deed) : of i (ofDeeds i ds) = ds := by
  simp [of, ofDeeds, List.filterMap_map, Function.comp_def, Event.deedFor?]

theorem of_ofDeeds_of_ne {i j : Nat} (h : j ≠ i) (ds : List Deed) : of i (ofDeeds j ds) = [] := by
  simp [of, ofDeeds, List.filterMap_map, Function.comp_def, Event.deedFor?, h]

@[simp] theorem of_cancel (i : Nat) : of i [Event.cancel] = [] := rfl

theorem of_cons_self (i : Nat) (d : Deed) (h : History) : of i (.deed i d :: h) = d :: of i h := by
  simp [of, Event.deedFor?]

theorem of_cons_of_ne {i j : Nat} (hij : i ≠ j) (d : Deed) (h : History) :
    of j (.deed i d :: h) = of j h := by
  simp [of, Event.deedFor?, hij]

theorem of_snoc_self (h : History) (i : Nat) (d : Deed) :
    of i (h ++ [.deed i d]) = of i h ++ [d] := by
  rw [of_append]
  exact congrArg _ (of_ofDeeds_self i [d])

theorem of_snoc_of_ne {i j : Nat} (hij : i ≠ j) (h : History) (d : Deed) :
    of j (h ++ [.deed i d]) = of j h := by
  have hnil : of j [.deed i d] = [] := of_ofDeeds_of_ne hij [d]
  rw [of_append, hnil, List.append_nil]

theorem mem_of {i : Nat} {d : Deed} {h : History} : d ∈ of i h ↔ Event.deed i d ∈ h := by
  simp only [of, List.mem_filterMap]
  constructor
  · rintro ⟨e, he, hd⟩
    cases e with
    | cancel => simp [Event.deedFor?] at hd
    | deed j d' =>
      obtain ⟨rfl, rfl⟩ : j = i ∧ d' = d := by simpa [Event.deedFor?] using hd
      exact he
  · intro he
    exact ⟨_, he, by simp [Event.deedFor?]⟩

/-- Batches that come in turn have the lives they are given. -/
theorem of_inTurn (k : Nat) :
    ∀ (lives : List (List Deed)) (i : Nat), of i (inTurn k lives) =
      if k ≤ i then lives.getD (i - k) [] else []
  | [], i => by simp [inTurn]
  | ds :: lives, i => by
    rw [inTurn, of_append, of_inTurn (k + 1) lives i]
    rcases Nat.lt_trichotomy i k with hlt | rfl | hlt
    · rw [of_ofDeeds_of_ne (by omega), if_neg (by omega), if_neg (by omega)]
      rfl
    · rw [of_ofDeeds_self, if_neg (by omega), if_pos (Nat.le_refl _), Nat.sub_self]
      simp
    · obtain ⟨n, rfl⟩ : ∃ n, i = k + 1 + n := ⟨i - (k + 1), by omega⟩
      rw [of_ofDeeds_of_ne (by omega), if_pos (by omega), if_pos (by omega)]
      have : k + 1 + n - k = n + 1 := by omega
      rw [this, Nat.add_sub_cancel_left]
      rfl

/-- While something is done for one of them, every other batch is over or has not begun. -/
theorem of_eq_nil_of_inTurn {i j : Nat} (hij : i ≠ j) {d : Deed} {after : History} :
    ∀ {k : Nat} {lives : List (List Deed)} {before : History},
      inTurn k lives = before ++ .deed i d :: after → of j before = [] ∨ of j after = []
  | _, [], before, heq => by simp [inTurn] at heq
  | k, ds :: lives, before, heq => by
    by_cases hjk : j = k
    · -- batch `j` is the first one, and the deed belongs to a later one
      subst hjk
      have hlater : of j (inTurn (j + 1) lives) = [] := by
        rw [of_inTurn, if_neg (Nat.not_le.mpr (Nat.lt_succ_self j))]
      rcases List.append_eq_append_iff.mp heq with ⟨before', rfl, hrest⟩ | ⟨rest, hds, hrest⟩
      · rw [hrest, of_append, of_cons_of_ne hij, List.append_eq_nil_iff] at hlater
        exact Or.inr hlater.2
      · rcases rest with _ | ⟨e, rest⟩
        · rw [List.nil_append] at hrest
          rw [← hrest, of_cons_of_ne hij] at hlater
          exact Or.inr hlater
        · obtain ⟨rfl, -⟩ := List.cons.inj hrest
          have hmem : Event.deed i d ∈ ofDeeds j ds := by simp [hds]
          obtain ⟨d', -, hd'⟩ := List.mem_map.mp hmem
          exact absurd (Event.deed.inj hd').1.symm hij
    · have hnone := of_ofDeeds_of_ne (Ne.symm hjk) ds
      rcases List.append_eq_append_iff.mp heq with ⟨before', rfl, hrest⟩ | ⟨rest, hds, hrest⟩
      · rw [of_append, hnone]
        exact of_eq_nil_of_inTurn hij hrest
      · rw [hds, of_append, List.append_eq_nil_iff] at hnone
        exact Or.inl hnone.1

/-- Batches for which nothing is done leave no trace. -/
theorem inTurn_map_nil {α : Type} : ∀ (k : Nat) (l : List α), inTurn k (l.map fun _ => []) = []
  | _, [] => rfl
  | k, _ :: l => inTurn_map_nil (k + 1) l

theorem cancel_not_mem_inTurn :
    ∀ (k : Nat) (lives : List (List Deed)), Event.cancel ∉ inTurn k lives
  | _, [] => List.not_mem_nil
  | k, ds :: lives => by
    rw [inTurn, List.mem_append, not_or]
    exact ⟨by simp [ofDeeds], cancel_not_mem_inTurn (k + 1) lives⟩

/-- Of the positions below `n` only one has something. -/
theorem flatMap_range_single {α : Type} (j : Nat) (l : List α) :
    ∀ n, ((List.range n).flatMap fun i => if j = i then l else []) = if j < n then l else []
  | 0 => by simp
  | n + 1 => by
    rw [List.range_succ, List.flatMap_append, flatMap_range_single j l n, List.flatMap_singleton]
    rcases Nat.lt_trichotomy j n with hlt | rfl | hlt
    · rw [if_pos hlt, if_neg (by omega), if_pos (by omega), List.append_nil]
    · simp
    · rw [if_neg (by omega), if_neg (by omega), if_neg (by omega), List.append_nil]

/-- What is done for any batch is what is done for each of them, in another order. -/
theorem perm_deeds {n : Nat} :
    ∀ h : History, (∀ i d, Event.deed i d ∈ h → i < n) →
      List.Perm (deeds h) ((List.range n).flatMap fun i => of i h)
  | [], _ => by simp [deeds]
  | .cancel :: h, hn => perm_deeds h fun i d hd => hn i d (List.mem_cons_of_mem _ hd)
  | .deed j d :: h, hn => by
    have hj : j < n := hn j d List.mem_cons_self
    have ih := perm_deeds h fun i d hd => hn i d (List.mem_cons_of_mem _ hd)
    have hof : ∀ i, of i (.deed j d :: h) = (if j = i then [d] else []) ++ of i h := by
      intro i
      by_cases hji : j = i
      · subst hji
        rw [of_cons_self, if_pos rfl]
        rfl
      · rw [of_cons_of_ne hji, if_neg hji]
        rfl
    have hperm := List.flatMap_append_perm (List.range n) (fun i => if j = i then [d] else [])
      fun i => of i h
    rw [flatMap_range_single j [d] n, if_pos hj] at hperm
    simp only [hof]
    exact (ih.cons d).trans hperm

theorem calls_append (h h' : History) : calls (h ++ h') = calls h ++ calls h' :=
  List.filterMap_append

theorem calls_eq (h : History) : calls h = (deeds h).filterMap Deed.call? := by
  rw [calls, deeds, List.filterMap_filterMap]
  congr 1
  funext e
  cases e <;> rfl

end History

namespace Executor

variable {x : Executor ρ τ} {s s₁ s' : Session ρ τ}

/-- The deed takes one session to another one. -/
inductive Does (x : Executor ρ τ) (s : Session ρ τ) : Deed → Session ρ τ → Prop
  | check : Does x s (.check (x.stopped s)) s
  | ask {answer : Except HostError OutputFile} {s' : Session ρ τ}
      (request : x.request s = (answer, s')) : Does x s (.ask answer) s'
  | call {c : Call} {answer : Except Failure Outcome} {s' : Session ρ τ}
      (launch : x.launch c.command c.deadline s = (answer, s')) :
      Does x s (.call c answer s'.host.files) s'
  | read (o : OutputFile) : Does x s (.read o (o.read s.host.files)) s
  | release (o : OutputFile) : Does x s (.release o) (s.release o)

/-- The deeds, one after the other, take one session to another one. -/
inductive Acts (x : Executor ρ τ) : Session ρ τ → List Deed → Session ρ τ → Prop
  | nil (s : Session ρ τ) : Acts x s [] s
  | cons {s s₁ s' : Session ρ τ} {d : Deed} {ds : List Deed} (does : Does x s d s₁)
      (rest : Acts x s₁ ds s') : Acts x s (d :: ds) s'

/-- The history takes one session to another one. -/
inductive Leads (x : Executor ρ τ) (s : Session ρ τ) : History → Session ρ τ → Prop
  | nil : Leads x s [] s
  | deed {h : History} {s₁ s' : Session ρ τ} {d : Deed} (leads : Leads x s h s₁) (i : Nat)
      (does : Does x s₁ d s') : Leads x s (h ++ [.deed i d]) s'
  | cancel {h : History} {s' : Session ρ τ} (leads : Leads x s h s') :
      Leads x s (h ++ [.cancel]) { s' with host := { s'.host with cancelled := true } }

theorem Leads.append_acts {h : History} {ds : List Deed} (leads : Leads x s h s₁) (i : Nat)
    (acts : Acts x s₁ ds s') : Leads x s (h ++ History.ofDeeds i ds) s' := by
  induction acts generalizing h with
  | nil s₁ => simpa [History.ofDeeds] using leads
  | cons does _ ih => simpa [History.ofDeeds] using ih (leads.deed i does)

theorem Leads.trans {h h' : History} (leads : Leads x s h s₁) (leads' : Leads x s₁ h' s') :
    Leads x s (h ++ h') s' := by
  induction leads' with
  | nil => simpa using leads
  | deed _ i does ih => simpa using ih.deed i does
  | cancel _ ih => simpa using ih.cancel

/-- A history can be stopped anywhere. -/
theorem Leads.exists_of_append {h : History} (leads : Leads x s h s') :
    ∀ before after, h = before ++ after → ∃ s₁, Leads x s before s₁ := by
  induction leads with
  | nil =>
    intro before after heq
    obtain ⟨rfl, -⟩ := List.append_eq_nil_iff.mp heq.symm
    exact ⟨s, .nil⟩
  | deed leads i does ih =>
    intro before after heq
    rcases History.snoc_eq_append heq with rfl | ⟨after, heq⟩
    · exact ⟨_, leads.deed i does⟩
    · exact ih before after heq
  | cancel leads ih =>
    intro before after heq
    rcases History.snoc_eq_append heq with rfl | ⟨after, heq⟩
    · exact ⟨_, leads.cancel⟩
    · exact ih before after heq

/-- The requests and the calls of a session are those of its history. -/
theorem Leads.record {h : History} (leads : Leads x s h s') :
    s'.requests = s.requests + h.countP Event.isAsk ∧ s'.calls = s.calls ++ h.calls := by
  induction leads with
  | nil => simp [History.calls]
  | @deed h s₁ s' d _ i does ih =>
    obtain ⟨hr, hc⟩ := ih
    rw [List.countP_append, History.calls_append, ← Nat.add_assoc, ← List.append_assoc, ← hr, ← hc]
    cases does with
    | check => simp [Event.isAsk, Deed.isAsk, History.calls, Event.call?, Deed.call?]
    | ask request =>
      obtain rfl := congrArg Prod.snd request
      exact ⟨rfl, (List.append_nil _).symm⟩
    | call launch =>
      obtain rfl := congrArg Prod.snd launch
      exact ⟨rfl, rfl⟩
    | read o => exact ⟨rfl, (List.append_nil _).symm⟩
    | release o => exact ⟨rfl, (List.append_nil _).symm⟩
  | cancel _ ih =>
    rw [List.countP_append, History.calls_append]
    exact ⟨ih.1, by rw [ih.2]; exact congrArg _ (List.append_nil _).symm⟩

end Executor

/-! ## The life of a batch -/

namespace Batch

/-- The command for the batch with an output file. -/
def command (config : Config) (b : Batch) (o : OutputFile) : Command :=
  Command.ofBatch config o b.files

/-- The call of the runner for the batch. -/
def call (config : Config) (b : Batch) (o : OutputFile) : Call :=
  ⟨b.command config o, config.deadline b.files.length⟩

/-- What is done for a batch, one of `total`, and the result it leads to. -/
inductive Fate (config : Config) (total : Nat) (b : Batch) :
    Except Failure (List Issue) → List Deed → Prop
  /-- The run had been cancelled. -/
  | cancelled (completed : Nat) : Fate config total b (.error (.cancelled completed)) [.check true]
  /-- There was no output file. -/
  | refused (e : HostError) : Fate config total b (Executor.located b total (.error (.io e)))
      [.check false, .ask (.error e)]
  /-- The output path made the command too long, and so it was not run. -/
  | rejected (o : OutputFile) (overlong : (b.command config o).overlong config = true) :
      Fate config total b
        (Executor.located b total
          (.error (.invalidConfiguration ((b.command config o).overlongText config))))
        [.check false, .ask (.ok o), .release o]
  /-- The runner failed. -/
  | crashed (o : OutputFile) (e : Failure) (files : FileSystem)
      (fits : (b.command config o).overlong config = false) :
      Fate config total b (Executor.located b total (.error e))
        [.check false, .ask (.ok o), .call (b.call config o) (.error e) files, .release o]
  /-- The report could not be read from the host. -/
  | unread (o : OutputFile) (outcome : Outcome) (files : FileSystem) (e : HostError)
      (fits : (b.command config o).overlong config = false) :
      Fate config total b (Executor.located b total (.error (.io e)))
        [.check false, .ask (.ok o), .call (b.call config o) (.ok outcome) files,
          .read o (.error e), .release o]
  /-- The outcome and the report were interpreted. A missing report is empty. -/
  | judged (o : OutputFile) (outcome : Outcome) (files : FileSystem) (report : Option Bytes)
      (fits : (b.command config o).overlong config = false) :
      Fate config total b (Executor.located b total (outcome.interpret (report.getD [])))
        [.check false, .ask (.ok o), .call (b.call config o) (.ok outcome) files,
          .read o (.ok report), .release o]

/-- What comes next for a batch, after what has been done for it. -/
inductive Next (config : Config) (b : Batch) : List Deed → Deed → Prop
  | check (stopped : Bool) : Next config b [] (.check stopped)
  | ask (answer : Except HostError OutputFile) : Next config b [.check false] (.ask answer)
  | reject (o : OutputFile) (overlong : (b.command config o).overlong config = true) :
      Next config b [.check false, .ask (.ok o)] (.release o)
  | call (o : OutputFile) (answer : Except Failure Outcome) (files : FileSystem)
      (fits : (b.command config o).overlong config = false) :
      Next config b [.check false, .ask (.ok o)] (.call (b.call config o) answer files)
  | crash (o : OutputFile) (e : Failure) (files : FileSystem) :
      Next config b [.check false, .ask (.ok o), .call (b.call config o) (.error e) files]
        (.release o)
  | read (o : OutputFile) (outcome : Outcome) (files : FileSystem)
      (answer : Except HostError (Option Bytes)) :
      Next config b [.check false, .ask (.ok o), .call (b.call config o) (.ok outcome) files]
        (.read o answer)
  | release (o : OutputFile) (outcome : Outcome) (files : FileSystem)
      (answer : Except HostError (Option Bytes)) :
      Next config b
        [.check false, .ask (.ok o), .call (b.call config o) (.ok outcome) files, .read o answer]
        (.release o)

/-- In whatever life, what is done for a batch comes in this order. -/
theorem Fate.next {config : Config} {total : Nat} {b : Batch}
    {r : Except Failure (List Issue)} {before after : List Deed} {d : Deed}
    (fate : b.Fate config total r (before ++ d :: after)) : b.Next config before d := by
  generalize hds : before ++ d :: after = ds at fate
  cases fate
  all_goals
    -- there are never more than five deeds
    rcases before with _ | ⟨d₁, _ | ⟨d₂, _ | ⟨d₃, _ | ⟨d₄, _ | ⟨d₅, before⟩⟩⟩⟩⟩
    all_goals simp_all [Next.check, Next.ask, Next.reject, Next.call, Next.crash, Next.read,
      Next.release]

/-- An output file that is given to a batch is released. -/
theorem Fate.release_mem {config : Config} {total : Nat} {b : Batch}
    {r : Except Failure (List Issue)} {ds : List Deed} {o : OutputFile}
    (fate : b.Fate config total r ds) (ho : .ask (.ok o) ∈ ds) : .release o ∈ ds := by
  cases fate <;> simp_all

/-- A batch fails because the run had been cancelled, or with its position and a cause. -/
theorem Fate.error_cases {config : Config} {total : Nat} {b : Batch} {e : Failure}
    {ds : List Deed} (fate : b.Fate config total (.error e) ds) :
    (∃ completed, e = .cancelled completed) ∨
      ∃ cause, e = .batch b.index total b.files.length cause := by
  generalize hr : Except.error e = r at fate
  cases fate with
  | cancelled completed => exact Or.inl ⟨completed, Except.error.inj hr⟩
  | refused | rejected | crashed | unread => exact Or.inr ⟨_, Except.error.inj hr⟩
  | judged o outcome files report =>
    cases hi : outcome.interpret (report.getD []) with
    | ok issues => simp [hi, Executor.located, Except.mapError] at hr
    | error cause =>
      rw [hi] at hr
      exact Or.inr ⟨cause, Except.error.inj hr⟩

end Batch

/-- What became of a batch in a run. -/
structure Life where
  /-- The result of the batch; there is none if it was left out. -/
  result : Option (Except Failure (List Issue))
  /-- What was done for it. -/
  deeds : List Deed

namespace Life

/-- The failure of the batch, if it has failed. -/
def failure? (l : Life) : Option Failure :=
  match l.result with
  | some (.error e) => some e
  | _ => none

theorem result_of_failure?_eq {l : Life} {e : Failure} (h : l.failure? = some e) :
    l.result = some (.error e) := by
  unfold failure? at h
  split at h
  · rename_i e' hr
    rw [hr, Option.some.inj h]
  · simp at h

/-- The batch has been linted. -/
def succeeded (l : Life) : Bool :=
  match l.result with
  | some (.ok _) => true
  | _ => false

end Life

/-- The life is one of a batch, one of `total`: a batch that was left out has had nothing done. -/
def Batch.Lived (config : Config) (total : Nat) (b : Batch) (l : Life) : Prop :=
  match l.result with
  | none => l.deeds = []
  | some r => b.Fate config total r l.deeds

namespace Round

variable {config : Config} {rounds : List Round} {lives : List Life}

/-- The life is that of a batch that was linted in a round. -/
structure Lived (config : Config) (r : Round) (l : Life) : Prop where
  accepted : r.Accepted
  result_eq : l.result = some (.ok r.issues)
  deeds_eq : ∃ after, l.deeds =
    [.check false, .ask (.ok r.output), .call (r.call config) (.ok r.outcome) after,
      .read r.output (.ok r.report), .release r.output]

/-- A batch that has been linted had a round. -/
theorem exists_lived_of_fate {b : Batch} {total : Nat} {issues : List Issue} {ds : List Deed}
    (fate : b.Fate config total (.ok issues) ds) :
    ∃ r : Round, r.batch = b ∧ r.Lived config ⟨some (.ok issues), ds⟩ := by
  generalize hr : Except.ok issues = result at fate
  cases fate with
  | cancelled | refused | rejected | crashed | unread =>
    exact absurd hr (by simp [Executor.located, Except.mapError])
  | judged o outcome after report =>
    let r : Round := ⟨b, o, outcome, report⟩
    rcases Executor.interpret_cases r with ⟨accepted, hi⟩ | ⟨-, -, hi⟩ | ⟨f, -, -, hi⟩
    · have hi : outcome.interpret (report.getD []) = .ok r.issues := hi
      rw [hi] at hr ⊢
      obtain rfl : issues = r.issues := Except.ok.inj hr
      exact ⟨r, rfl, accepted, rfl, after, rfl⟩
    · have hi : outcome.interpret (report.getD []) = .error _ := hi
      rw [hi] at hr
      cases hr
    · have hi : outcome.interpret (report.getD []) = .error _ := hi
      rw [hi] at hr
      cases hr

theorem exists_lived {total : Nat} {batches : List Batch} {lives : List Life}
    (h : List.Forall₂ (Batch.Lived config total) batches lives)
    (hall : ∀ l ∈ lives, ∃ issues, l.result = some (.ok issues)) :
    ∃ rounds : List Round, rounds.map Round.batch = batches ∧
      List.Forall₂ (Round.Lived config) rounds lives := by
  induction h with
  | nil => exact ⟨[], rfl, .nil⟩
  | @cons b l _ _ hb _ ih =>
    obtain ⟨⟨issues, hissues⟩, hall⟩ := List.forall_mem_cons.mp hall
    obtain ⟨rounds, hrounds, hlived⟩ := ih hall
    rw [Batch.Lived, hissues] at hb
    obtain ⟨r, rfl, lived⟩ := exists_lived_of_fate hb
    rw [← hissues] at lived
    exact ⟨r :: rounds, by rw [List.map_cons, hrounds], .cons lived hlived⟩

theorem filterMap_call?_lives 
    (h : List.Forall₂ (Round.Lived config) rounds lives) :
    (lives.flatMap Life.deeds).filterMap Deed.call? = rounds.map (Round.call config) := by
  induction h with
  | nil => rfl
  | cons lived _ ih =>
    obtain ⟨after, hdeeds⟩ := lived.deeds_eq
    rw [List.flatMap_cons, List.filterMap_append, hdeeds, ih]
    rfl

theorem map_result_lives 
    (h : List.Forall₂ (Round.Lived config) rounds lives) :
    lives.map Life.result = (rounds.map Round.issues).map fun issues => some (.ok issues) := by
  induction h with
  | nil => rfl
  | cons lived _ ih => rw [List.map_cons, ih, lived.result_eq, List.map_cons, List.map_cons]

end Round

namespace Executor

variable {x : Executor ρ τ} {config : Config} {batch : Batch} {total : Nat} {s s' : Session ρ τ}

/-- A round, begun while the run had not been cancelled, is the life of its batch. -/
theorem Performs.acts {r : Round} (h : Performs x config s r s') (going : x.stopped s = false) :
    ∃ ds, Acts x s ds s' ∧
      r.batch.Fate config total (located r.batch total (r.outcome.interpret r.text)) ds := by
  obtain ⟨request, fits, launch, read⟩ := h
  rename_i s₁ s₂
  refine ⟨_, ?_, .judged r.output r.outcome s₂.host.files r.report fits⟩
  rw [← going, ← read]
  exact .cons .check <| .cons (.ask request) <| .cons (.call launch) <| .cons (.read _) <|
    .cons (.release _) <| .nil _

theorem Fails.acts {calls : List Call} {e : Failure} (h : Fails x config batch s calls e s')
    (going : x.stopped s = false) :
    ∃ ds, Acts x s ds s' ∧ batch.Fate config total (located batch total (.error e)) ds := by
  cases h with
  | @request e s₁ request =>
    refine ⟨_, ?_, .refused e⟩
    rw [← going]
    exact .cons .check <| .cons (.ask request) <| .nil _
  | @overlong o s₁ request overlong =>
    refine ⟨_, ?_, .rejected o overlong⟩
    rw [← going]
    exact .cons .check <| .cons (.ask request) <| .cons (.release o) <| .nil _
  | @launch o e s₁ s₂ request fits launch =>
    refine ⟨_, ?_, .crashed o e s₂.host.files fits⟩
    rw [← going]
    exact .cons .check <| .cons (.ask request) <| .cons (.call launch) <| .cons (.release o) <|
      .nil _
  | @read o outcome e s₁ s₂ request fits launch read =>
    refine ⟨_, ?_, .unread o outcome s₂.host.files e fits⟩
    rw [← going, ← read]
    exact .cons .check <| .cons (.ask request) <| .cons (.call launch) <| .cons (.read o) <|
      .cons (.release o) <| .nil _
  | @silent r s' performs batch_eq blank exitCode =>
    subst batch_eq
    have hi : r.outcome.interpret r.text =
        .error (.processFailed r.outcome.exitCode r.outcome.stderr) := by
      simp [Outcome.interpret, blank, Outcome.success, exitCode]
    rw [← hi]
    exact performs.acts going
  | @garbled r f s' performs batch_eq blank files =>
    subst batch_eq
    have hi : r.outcome.interpret r.text = .error (Report.failure r.text f) := by
      simp [Outcome.interpret, blank, Report.issues, files]
    rw [← hi]
    exact performs.acts going

/-- Linting a batch, unless the run has been cancelled, is a life of the batch. -/
theorem runBatch_acts (hv : config.Valid) (hb : batch.files ≠ []) (x : Executor ρ τ)
    (total completed : Nat) (s : Session ρ τ) :
    ∃ ds, Acts x s ds (x.runBatch config batch total completed s).2 ∧
      batch.Fate config total (x.runBatch config batch total completed s).1 ds := by
  rw [runBatch]
  by_cases hstop : x.stopped s = true
  · rw [if_pos hstop]
    refine ⟨_, ?_, .cancelled completed⟩
    rw [← hstop]
    exact .cons .check <| .nil _
  rw [if_neg hstop]
  have going : x.stopped s = false := by simpa using hstop
  rcases lintBatch_cases hv hb x s with
    ⟨r, s', rfl, performs, accepted, hlint⟩ | ⟨calls, e, s', fails, hlint⟩
  · rw [hlint, ← interpret_of_accepted accepted]
    exact performs.acts going
  · rw [hlint]
    exact fails.acts going

/-! ## The account of a run -/

/-- What the run of a plan from the session `s` to the session `s'` did for each batch, and what its
result stands for. -/
structure Accounts (x : Executor ρ τ) (config : Config) (files : List Path) (s s' : Session ρ τ)
    (result : Except Failure RunResult) (batches : List Batch) (history : History)
    (lives : List Life) : Prop where
  plan_eq : plan config files = .ok batches
  leads : Leads x s history s'
  requests_eq : s'.requests = s.requests + history.countP Event.isAsk
  calls_eq : s'.calls = s.calls ++ history.calls
  /-- Each batch has had its life, or it was left out. -/
  lived : List.Forall₂ (Batch.Lived config batches.length) batches lives
  /-- Nothing has been done but what the lives tell. -/
  deeds_eq : ∀ i, history.of i = (lives.map Life.deeds).getD i []
  /-- With a result every batch of the plan was a success, and their issues are those of the
  result. -/
  completed : ∀ r, result = .ok r → ∃ found : List (List Issue),
    lives.map Life.result = found.map (fun issues => some (.ok issues)) ∧
      r = ⟨found.flatten, found.length⟩
  /-- A failure is that of the first batch, in the order of the plan, that failed. -/
  failed : ∀ e, result = .error e → lives.findSome? Life.failure? = some e

/-- The life at a position is that of the batch there. -/
theorem Accounts.exists_lived {files : List Path} {result : Except Failure RunResult}
    {batches : List Batch} {history : History} {lives : List Life}
    (a : Accounts x config files s s' result batches history lives) {i : Nat} {l : Life}
    (hl : lives[i]? = some l) : ∃ b, batches[i]? = some b ∧ b.index = i ∧
      history.of i = l.deeds ∧ b.Lived config batches.length l := by
  obtain ⟨hlen, hlived⟩ := List.forall₂_iff_get.mp a.lived
  obtain ⟨hi, rfl⟩ := List.getElem?_eq_some_iff.mp hl
  have hb : i < batches.length := hlen ▸ hi
  refine ⟨batches[i], List.getElem?_eq_getElem hb,
    (Plan.isGreedy_of_plan_eq_ok a.plan_eq).index i hb, ?_, hlived i hb hi⟩
  rw [a.deeds_eq i]
  simp [hi]

/-- What was done for the batch at a position makes up the life of that batch. -/
theorem Accounts.exists_fate {files : List Path} {result : Except Failure RunResult}
    {batches : List Batch} {history : History} {lives : List Life}
    (a : Accounts x config files s s' result batches history lives) {i : Nat} {d : Deed}
    (hd : Event.deed i d ∈ history) : ∃ b l r, batches[i]? = some b ∧ b.index = i ∧
      lives[i]? = some l ∧ l.result = some r ∧
      b.Fate config batches.length r (history.of i) := by
  have hmem : d ∈ history.of i := History.mem_of.mpr hd
  cases hl : lives[i]? with
  | none => simp [a.deeds_eq i, hl] at hmem
  | some l =>
    obtain ⟨b, hb, hindex, hdeeds, hlived⟩ := a.exists_lived hl
    rw [Batch.Lived] at hlived
    cases hr : l.result with
    | none => simp [hdeeds, hr ▸ hlived] at hmem
    | some r =>
      rw [hr] at hlived
      exact ⟨b, l, r, hb, hindex, rfl, hr, hdeeds ▸ hlived⟩

/-- The deed after the beginning of a history is one that may come next for its batch. -/
theorem Accounts.next {files : List Path} {result : Except Failure RunResult}
    {batches : List Batch} {history : History} {lives : List Life}
    (a : Accounts x config files s s' result batches history lives) {before after : History}
    {i : Nat} {d : Deed} (heq : history = before ++ .deed i d :: after) :
    ∃ b, batches[i]? = some b ∧ b.Next config (before.of i) d := by
  obtain ⟨b, l, r, hb, -, -, -, fate⟩ := a.exists_fate (i := i) (d := d) (by simp [heq])
  rw [heq, History.of_append, History.of_cons_self] at fate
  exact ⟨b, hb, fate.next⟩

/-- What holds when a run begins holds after every beginning of its history, if every deed keeps it
that may come next for its batch, and a cancellation does. -/
theorem Accounts.preserved {files : List Path} {result : Except Failure RunResult}
    {batches : List Batch} {history : History} {lives : List Life}
    (a : Accounts x config files s s' result batches history lives)
    {motive : History → Session ρ τ → Prop} (nil : motive [] s)
    (deed : ∀ before i b d s₁ s₂ after, history = before ++ .deed i d :: after →
      batches[i]? = some b → b.Next config (before.of i) d → Does x s₁ d s₂ → motive before s₁ →
      motive (before ++ [.deed i d]) s₂)
    (cancel : ∀ before s₁ after, history = before ++ .cancel :: after → motive before s₁ →
      motive (before ++ [.cancel]) { s₁ with host := { s₁.host with cancelled := true } })
    {before : History} {s₁ : Session ρ τ} (leads : Leads x s before s₁) :
    ∀ after, history = before ++ after → motive before s₁ := by
  induction leads with
  | nil => exact fun _ _ => nil
  | @deed h s₁ s₂ d _ i does ih =>
    intro after heq
    rw [List.append_assoc, List.singleton_append] at heq
    obtain ⟨b, hb, next⟩ := a.next heq
    exact deed h i b d s₁ s₂ after heq hb next does (ih _ heq)
  | cancel _ ih =>
    intro after heq
    rw [List.append_assoc, List.singleton_append] at heq
    exact cancel _ _ after heq (ih _ heq)

/-- With a result every batch has been linted. -/
theorem Accounts.result_eq_some_ok {files : List Path} {result : Except Failure RunResult}
    {batches : List Batch} {history : History} {lives : List Life}
    (a : Accounts x config files s s' result batches history lives) {r : RunResult}
    (hr : result = .ok r) : ∀ l ∈ lives, ∃ issues, l.result = some (.ok issues) := by
  obtain ⟨found, hfound, -⟩ := a.completed r hr
  intro l hl
  have hmem : l.result ∈ found.map fun issues => some (Except.ok issues) :=
    hfound ▸ List.mem_map_of_mem hl
  obtain ⟨issues, -, hissues⟩ := List.mem_map.mp hmem
  exact ⟨issues, hissues.symm⟩

/-- Batches that are run in turn account for themselves, `result` being what was found before. -/
theorem runBatches_lived (hv : config.Valid) (x : Executor ρ τ) (total : Nat) :
    ∀ (batches : List Batch) (k : Nat) (result : RunResult) (s : Session ρ τ),
      (∀ b ∈ batches, b.files ≠ []) → ∃ lives : List Life,
        Leads x s (History.inTurn k (lives.map Life.deeds))
          (x.runBatches config total batches result s).2 ∧
        List.Forall₂ (Batch.Lived config total) batches lives ∧
        (∀ r, (x.runBatches config total batches result s).1 = .ok r →
          ∃ found : List (List Issue),
            lives.map Life.result = found.map (fun issues => some (.ok issues)) ∧
              r = ⟨result.issues ++ found.flatten, result.batches + found.length⟩) ∧
        ∀ e, (x.runBatches config total batches result s).1 = .error e →
          lives.findSome? Life.failure? = some e
  | [], k, result, s, _ => ⟨[], .nil, .nil, by simp [runBatches], by simp [runBatches]⟩
  | b :: batches, k, result, s, hne => by
    obtain ⟨hb, hne⟩ := List.forall_mem_cons.mp hne
    obtain ⟨ds, acts, fate⟩ := runBatch_acts hv hb x total result.batches s
    have hleads : Leads x s (History.ofDeeds k ds) _ := Leads.nil.append_acts k acts
    rw [runBatches]
    rcases hstep : x.runBatch config b total result.batches s with ⟨e | issues, s₁⟩
    · -- the rest is left out
      rw [hstep] at fate hleads
      refine ⟨⟨some (.error e), ds⟩ :: batches.map fun _ => ⟨none, []⟩, ?_, ?_, by simp, ?_⟩
      · rw [List.map_cons, List.map_map, History.inTurn, Function.comp_def,
          History.inTurn_map_nil, List.append_nil]
        exact hleads
      · refine .cons fate ?_
        rw [List.forall₂_map_right_iff, List.forall₂_same]
        exact fun b _ => rfl
      · intro e' he
        obtain rfl : e = e' := Except.error.inj he
        rw [List.findSome?_cons]
        rfl
    · rw [hstep] at fate hleads
      obtain ⟨lives, hrest, hlived, hok, herr⟩ :=
        runBatches_lived hv x total batches (k + 1) (result.push issues) s₁ hne
      refine ⟨⟨some (.ok issues), ds⟩ :: lives, hleads.trans hrest, .cons fate hlived, ?_, ?_⟩
      · intro r hr
        obtain ⟨found, hfound, rfl⟩ := hok r hr
        refine ⟨issues :: found, by simp [hfound], ?_⟩
        simp only [RunResult.push, List.flatten_cons, List.append_assoc, List.length_cons,
          RunResult.mk.injEq, true_and]
        omega
      · intro e he
        rw [List.findSome?_cons]
        exact herr e he

/-- A run batch after batch accounts for its batches, and they come in turn. -/
theorem execute_accounts {files : List Path} (h : checkInputs config files = .ok ())
    (x : Executor ρ τ) (s : Session ρ τ) : ∃ lives,
      Accounts x config files s (x.execute config files s).2 (x.execute config files s).1
        (Plan.batches config files) (History.inTurn 0 (lives.map Life.deeds)) lives := by
  have hv := valid_of_checkInputs h
  rw [execute, planChecked_eq_ok h]
  obtain ⟨lives, leads, lived, completed, failed⟩ := runBatches_lived hv x _
    (Plan.batches config files) 0 {} s (Plan.isGreedy_batches config files).nonempty
  exact ⟨lives, plan_eq_ok hv files, leads, leads.record.1, leads.record.2, lived,
    fun i => by simp [History.of_inTurn], by simpa using completed, failed⟩

end Executor

end LintDispatch
