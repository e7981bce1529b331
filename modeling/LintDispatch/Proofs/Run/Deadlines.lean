import LintDispatch.Proofs.CommandLine.Preview
import LintDispatch.Proofs.Run.Refusal
import LintDispatch.Run.Native
import Mathlib.Algebra.Ring.Nat

/-!
# Deadlines
Every file of a command adds the same time to its deadline, up to the greatest number there is room
for. The deadline of a call is computed once, and whoever speaks of it later means the same number:
the plan that is shown for the batch, the duration that a process gets, and the failure of a process
whose time is up (`Executor.Deadline`).

Cutting the files into batches adds up to the same time wherever the cuts are, as long as there is
room for the whole (`Executor.Linted.sum_deadlines`), so the limit on the length of a command has no
say in it.
-/

namespace LintDispatch

variable {ρ τ : Type} {config : Config} {files : List Path}

/-! ## Processes whose time is up -/

namespace Native

/-- A command is started on a machine, and its end is not seen while it is watched. -/
def TimesOut (m : Machine) (interval : Nat) (command : Command) (timeout : UInt64) (host : Host) :
    Prop :=
  let deadline := Watch.deadline? 0 timeout.toNat
  ∃ course, m.start command.argv interval deadline host.files = .ok course ∧
    ∀ verdict ∈ (Watch.log interval deadline (course.observations interval deadline)).verdict,
      verdict = .overdue

/-- A command whose time is up is reported with the time that it was given, and a report of that
kind means nothing else. -/
theorem run_eq_processTimeout_iff (m : Machine) (interval : Nat) (command : Command)
    (timeout t : UInt64) (host : Host) :
    (run m interval command timeout host).1 = .error (.processTimeout t) ↔
      TimesOut m interval command timeout host ∧ t = timeout := by
  simp only [run, TimesOut, Clock.ticks_machine, Duration.milliseconds_ofMilliseconds]
  generalize Watch.deadline? 0 timeout.toNat = deadline
  cases m.start command.argv interval deadline host.files with
  | error e => simp
  | ok course =>
    simp only [Except.ok.injEq, exists_eq_left']
    rcases (Watch.log interval deadline (course.observations interval deadline)).verdict with
      _ | ⟨exitCode⟩ | ⟨e⟩ | _ <;>
    simp [result, eq_comm]

end Native

/-! ## The deadline of a call -/

namespace Executor

/-- What the deadline of a call is, and who else speaks of it. -/
structure Deadline (config : Config) (files : List Path) (c : Call) : Prop where
  /-- Each file of the command adds to the deadline, until there is no more room. -/
  scales : c.deadline.toNat =
    min (config.timeoutPerFile.toNat * (c.command.fileArgs config).length) (UInt64.size - 1)
  /-- The deadline is the time that the configuration allows. -/
  allowed : Duration.ofMilliseconds c.deadline = config.timeout (c.command.fileArgs config).length
  /-- The plan shows it for the batch of these files. -/
  shown : ∃ b ∈ Plan.batches config files, b.files = c.command.fileArgs config ∧
    ∀ total, Program.batchText config total b = (Preview.ofCall config c).text total b.index
  /-- A process that is not done by then is reported with it. -/
  reported : ∀ (m : Machine) (interval : Nat) (host : Host) (t : UInt64),
    (Native.run m interval c.command c.deadline host).1 = .error (.processTimeout t) ↔
      Native.TimesOut m interval c.command c.deadline host ∧ t = c.deadline

theorem fileArgs_call (config : Config) (b : Batch) (o : OutputFile) :
    (b.call config o).command.fileArgs config = b.files :=
  Command.fileArgs_ofBatch config o b.files

theorem deadline_call {b : Batch} (hb : b ∈ Plan.batches config files) (o : OutputFile) :
    Deadline config files (b.call config o) where
  scales := by
    rw [fileArgs_call]
    exact config.toNat_deadline b.files.length
  allowed := by
    rw [fileArgs_call]
    rfl
  shown := by
    refine ⟨b, hb, (fileArgs_call config b o).symm, fun total => ?_⟩
    rw [Preview.batchText_eq, Preview.ofCall_call]
  reported m interval host t := Native.run_eq_processTimeout_iff m interval _ _ t host

theorem exists_of_mem_calls {history : History} {c : Call} (hc : c ∈ history.calls) :
    ∃ i answer fs, .deed i (.call c answer fs) ∈ history := by
  obtain ⟨e, he, hcall⟩ := List.mem_filterMap.mp hc
  cases e with
  | cancel => cases hcall
  | deed i d =>
    cases d with
    | call c' answer fs =>
      obtain rfl := Option.some.inj hcall
      exact ⟨i, answer, fs, he⟩
    | _ => cases hcall

variable {x : Executor ρ τ} {s s' : Session ρ τ} {result : Except Failure RunResult}
  {history : History}

/-- Every call of a run is that of a batch of its plan, and has its deadline. -/
theorem Accounts.deadlines {lives : List Life}
    (a : Accounts x config files s s' result (Plan.batches config files) history lives) :
    ∀ c ∈ history.calls, Deadline config files c := by
  intro c hc
  obtain ⟨i, answer, fs, he⟩ := exists_of_mem_calls hc
  obtain ⟨b, l, r, hb, -, -, -, fate⟩ := a.exists_fate he
  obtain ⟨o, -, rfl, -⟩ := fate.exists_of_call (History.mem_of.mpr he)
  exact deadline_call (List.mem_of_getElem? hb) o

/-! ## The time for a whole run -/

/-- The deadlines of some calls, taken together. -/
def budget (calls : List Call) : Nat := (calls.map fun c => c.deadline.toNat).sum

/-- If there is room for the time of all files, no deadline has been cut off, and so together they
are that time. -/
theorem budget_eq {calls : List Call} (hcalls : ∀ c ∈ calls, Deadline config files c)
    (hroom : config.timeoutPerFile.toNat *
      (calls.flatMap fun c => c.command.fileArgs config).length < UInt64.size) :
    budget calls = config.timeoutPerFile.toNat *
      (calls.flatMap fun c => c.command.fileArgs config).length := by
  induction calls with
  | nil => rfl
  | cons c calls ih =>
    rw [List.flatMap_cons, List.length_append, Nat.mul_add] at hroom ⊢
    have hc := (hcalls c List.mem_cons_self).scales
    have hrest := ih (fun c' h => hcalls c' (List.mem_cons_of_mem c h)) (by omega)
    have hcons : budget (c :: calls) = c.deadline.toNat + budget calls := List.sum_cons
    omega

/-- With a result the calls are about all the files, so their deadlines are the time of all the
files, wherever the batches begin. -/
theorem Linted.budget_eq {rounds : List Round}
    (linted : Linted x config files s s' result history rounds)
    (hcalls : ∀ c ∈ history.calls, Deadline config files c)
    (hroom : config.timeoutPerFile.toNat * files.length < UInt64.size) :
    budget history.calls = config.timeoutPerFile.toNat * files.length := by
  have hperm : budget history.calls = budget (rounds.map (Round.call config)) :=
    (linted.calls_perm.map _).sum_nat
  have hrounds : ∀ c ∈ rounds.map (Round.call config), Deadline config files c :=
    fun c hc => hcalls c (linted.calls_perm.mem_iff.mpr hc)
  rw [hperm, Executor.budget_eq hrounds (by rwa [linted.files_eq]), linted.files_eq]

/-- Deadlines follow the number of files, and nothing else. Whoever is ordered to lint files that
have names, under a configuration that can drive a run, makes calls with such deadlines. If there is
a result and room for the time of all files, their deadlines are that time when taken together. -/
theorem carryOut_deadlines (x : Executor ρ τ) {order : Order}
    (hconfig : order.config? = some config) (hfiles : order.files? = some files)
    (hv : config.Valid) (hnames : ∀ f ∈ files, f.isBlank = false) (s : Session ρ τ) :
    ∃ ran, (x.carryOut s order).2.calls = s.calls ++ ran ∧
      (∀ c ∈ ran, Deadline config files c) ∧
      ∀ found, (x.carryOut s order).1 = .ok found →
        config.timeoutPerFile.toNat * files.length < UInt64.size →
          budget ran = config.timeoutPerFile.toNat * files.length := by
  have hcheck := checkInputs_eq_ok hv hnames
  rw [carryOut_eq_lint hconfig hfiles]
  cases hobstacle : order.mode.obstacle? with
  | some reason =>
    rw [lint_of_obstacle hobstacle hcheck]
    exact ⟨[], (List.append_nil _).symm, by simp, by simp⟩
  | none =>
    obtain ⟨history, lives, a, -⟩ := lint_accounts hobstacle hcheck x s
    refine ⟨history.calls, a.calls_eq, a.deadlines, fun found hfound hroom => ?_⟩
    obtain ⟨rounds, linted⟩ := a.exists_linted hfound
    exact linted.budget_eq a.deadlines hroom

/-- Three files are to be linted, two of them at a time. -/
def narrowOrder : Order := .execute Plan.narrow [[97], [98], [99]]

/-- A run of three files in two batches takes the time of three files. -/
theorem carryOut_tellsOnce_deadlines :
    Plan.narrow.Valid ∧ (∀ f ∈ [[97], [98], [99]], Bytes.isBlank f = false) ∧
      ∃ ran, (tellsOnce.carryOut .fresh narrowOrder).2.calls = ran ∧
        (∀ c ∈ ran, Deadline Plan.narrow [[97], [98], [99]] c) ∧
        ran.map (fun c => c.deadline.toNat) = [120000, 60000] ∧ budget ran = 180000 := by
  have hv : Plan.narrow.Valid := by decide +kernel
  have hnames : ∀ f ∈ [[97], [98], [99]], Bytes.isBlank f = false := by decide +kernel
  have hconfig : narrowOrder.config? = some Plan.narrow := rfl
  obtain ⟨ran, hcalls, hran, hbudget⟩ := carryOut_deadlines tellsOnce hconfig rfl hv hnames .fresh
  have hdeadlines : (tellsOnce.carryOut .fresh narrowOrder).2.calls.map
      (fun c => c.deadline.toNat) = [120000, 60000] := by decide +kernel
  have hfound : (tellsOnce.carryOut .fresh narrowOrder).1 = .ok ⟨[{
      path := [97], severity := .warning, message := "m", line := 1, column := 1 }], 2⟩ := by
    decide +kernel
  refine ⟨hv, hnames, ran, hcalls, hran, ?_, hbudget _ hfound (by decide +kernel)⟩
  rw [hcalls] at hdeadlines
  exact hdeadlines

end Executor

end LintDispatch
