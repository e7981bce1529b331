import LintDispatch.Run.Sequential

/-!
# Rounds
A round is a batch linted up to the reading of its report: its command was built with an output file
from the provider, the runner ended it with an outcome, and the file was read and released
(`Executor.Performs`). Whether the round counts as a success is read off the outcome and the report
alone (`Round.Accepted`). `Executor.Fails` lists the ways in which a batch can fail, in the order in
which they are found out; each of them says that nothing before it went wrong.

`Executor.lintBatch_cases`: linting a batch of a usable configuration is an accepted round or one of
these failures. Later arguments go by it and never look into the stages again. Each way asks for one
output file, and the commands it hands to the runner are those it names.
-/

namespace LintDispatch

variable {ρ τ : Type}

/-- The arguments after the fixed part of a command: its files. -/
def Command.fileArgs (config : Config) (c : Command) : List Path :=
  c.argv.drop (Command.fixedArgs config c.output.path).length

@[simp] theorem Command.fileArgs_ofBatch (config : Config) (o : OutputFile) (files : List Path) :
    (Command.ofBatch config o files).fileArgs config = files :=
  List.drop_left

/-- A batch that was linted, what its process left behind, and the report that was read. -/
structure Round where
  batch : Batch
  output : OutputFile
  outcome : Outcome
  /-- The report; there is none if the file was missing. -/
  report : Option Bytes

namespace Round

/-- The command of the round. -/
def command (config : Config) (r : Round) : Command := Command.ofBatch config r.output r.batch.files

/-- The call of the runner. -/
def call (config : Config) (r : Round) : Call :=
  ⟨r.command config, config.deadline r.batch.files.length⟩

/-- The text of the report: a missing one is empty. -/
def text (r : Round) : Bytes := r.report.getD []

/-- The issues that the report tells of. -/
def issues (r : Round) : List Issue := (Report.issues r.text).toOption.getD []

/-- The process ended well and had nothing to report. -/
def Silent (r : Round) : Prop := r.outcome.exitCode = some 0 ∧ r.text.allBlank = true

/-- There is a report, and it can be read. The exit code does not matter then. -/
def Told (r : Round) : Prop := r.text.allBlank = false ∧ Report.issues r.text = .ok r.issues

/-- The round is a success. -/
def Accepted (r : Round) : Prop := r.Silent ∨ r.Told

theorem Silent.issues_eq_nil {r : Round} (h : r.Silent) : r.issues = [] := by
  rw [issues, Report.issues, if_pos h.2]
  rfl

theorem Accepted.issues_eq {r : Round} (h : r.Accepted) :
    Report.issues r.text = .ok r.issues := by
  rcases h with silent | told
  · rw [silent.issues_eq_nil, Report.issues, if_pos silent.2]
  · exact told.2

theorem told_of_eq_ok {r : Round} {found : List Issue} (hb : r.text.allBlank = false)
    (h : Report.issues r.text = .ok found) : r.Told ∧ r.issues = found := by
  have hi : r.issues = found := by rw [issues, h]; rfl
  exact ⟨⟨hb, by rw [h, hi]⟩, hi⟩

end Round

namespace Executor

variable {x : Executor ρ τ} {config : Config} {batch : Batch} {s s' : Session ρ τ}

/-- From the session `s`, the batch of the round was linted up to the reading of its report. -/
inductive Performs (x : Executor ρ τ) (config : Config) (s : Session ρ τ) (r : Round) :
    Session ρ τ → Prop
  | intro {s₁ s₂ : Session ρ τ} (request : x.request s = (.ok r.output, s₁))
      (fits : (r.command config).overlong config = false)
      (launch : x.launch (r.command config) (config.deadline r.batch.files.length) s₁ =
        (.ok r.outcome, s₂))
      (read : r.output.read s₂.host.files = .ok r.report) :
      Performs x config s r (s₂.release r.output)

/-- From the session `s`, the batch failed with a cause, after the calls named. -/
inductive Fails (x : Executor ρ τ) (config : Config) (batch : Batch) (s : Session ρ τ) :
    List Call → Failure → Session ρ τ → Prop
  /-- There was no output file. -/
  | request {e : HostError} {s₁ : Session ρ τ} (request : x.request s = (.error e, s₁)) :
      Fails x config batch s [] (.io e) s₁
  /-- The output path made the command too long. -/
  | overlong {o : OutputFile} {s₁ : Session ρ τ} (request : x.request s = (.ok o, s₁))
      (overlong : (Command.ofBatch config o batch.files).overlong config = true) :
      Fails x config batch s []
        (.invalidConfiguration ((Command.ofBatch config o batch.files).overlongText config))
        (s₁.release o)
  /-- The runner failed. -/
  | launch {o : OutputFile} {e : Failure} {s₁ s₂ : Session ρ τ}
      (request : x.request s = (.ok o, s₁))
      (fits : (Command.ofBatch config o batch.files).overlong config = false)
      (launch : x.launch (Command.ofBatch config o batch.files)
        (config.deadline batch.files.length) s₁ = (.error e, s₂)) :
      Fails x config batch s
        [⟨Command.ofBatch config o batch.files, config.deadline batch.files.length⟩] e
        (s₂.release o)
  /-- The report could not be read from the host. -/
  | read {o : OutputFile} {outcome : Outcome} {e : HostError} {s₁ s₂ : Session ρ τ}
      (request : x.request s = (.ok o, s₁))
      (fits : (Command.ofBatch config o batch.files).overlong config = false)
      (launch : x.launch (Command.ofBatch config o batch.files)
        (config.deadline batch.files.length) s₁ = (.ok outcome, s₂))
      (read : o.read s₂.host.files = .error e) :
      Fails x config batch s
        [⟨Command.ofBatch config o batch.files, config.deadline batch.files.length⟩] (.io e)
        (s₂.release o)
  /-- The process failed and left no report. -/
  | silent {r : Round} {s' : Session ρ τ} (performs : Performs x config s r s')
      (batch_eq : r.batch = batch) (blank : r.text.allBlank = true)
      (exitCode : r.outcome.exitCode ≠ some 0) :
      Fails x config batch s [r.call config]
        (.processFailed r.outcome.exitCode r.outcome.stderr) s'
  /-- The report is no report. -/
  | garbled {r : Round} {f : Json.Fault} {s' : Session ρ τ} (performs : Performs x config s r s')
      (batch_eq : r.batch = batch) (blank : r.text.allBlank = false)
      (files : Report.files r.text = .error f) :
      Fails x config batch s [r.call config] (Report.failure r.text f) s'

/-- No command of the batch reaches the runner: there is no output file, or its path is too long. -/
def withholds (x : Executor ρ τ) (config : Config) (batch : Batch) (s : Session ρ τ) : Bool :=
  match (x.request s).1 with
  | .error _ => true
  | .ok o => (Command.ofBatch config o batch.files).overlong config

/-! ## The record of a session -/

theorem Performs.record {r : Round} (h : Performs x config s r s') :
    s'.requests = s.requests + 1 ∧ s'.calls = s.calls ++ [r.call config] := by
  obtain ⟨request, -, launch, -⟩ := h
  obtain rfl := congrArg Prod.snd request
  obtain rfl := congrArg Prod.snd launch
  exact ⟨rfl, rfl⟩

theorem withholds_of_request {o : OutputFile} {s₁ : Session ρ τ}
    (h : x.request s = (.ok o, s₁)) :
    x.withholds config batch s = (Command.ofBatch config o batch.files).overlong config := by
  rw [withholds, h]

theorem Performs.withholds_eq_false {r : Round} (h : Performs x config s r s') :
    x.withholds config r.batch s = false := by
  obtain ⟨request, fits, -, -⟩ := h
  rw [withholds_of_request request]
  exact fits

/-- A failed batch has asked for one output file, and has called the runner unless its command was
withheld. -/
theorem Fails.record {calls : List Call} {e : Failure} (h : Fails x config batch s calls e s') :
    s'.requests = s.requests + 1 ∧ s'.calls = s.calls ++ calls ∧
      calls.length = if x.withholds config batch s then 0 else 1 := by
  cases h with
  | request request =>
    have hw : x.withholds config batch s = true := by rw [withholds, request]
    obtain rfl := congrArg Prod.snd request
    exact ⟨rfl, (List.append_nil _).symm, by rw [hw]; rfl⟩
  | overlong request overlong =>
    have hw : x.withholds config batch s = true := by rw [withholds_of_request request, overlong]
    obtain rfl := congrArg Prod.snd request
    exact ⟨rfl, (List.append_nil _).symm, by rw [hw]; rfl⟩
  | launch request fits launch | read request fits launch =>
    have hw : x.withholds config batch s = false := by rw [withholds_of_request request, fits]
    obtain rfl := congrArg Prod.snd request
    obtain rfl := congrArg Prod.snd launch
    exact ⟨rfl, rfl, by rw [hw]; rfl⟩
  | silent performs batch_eq | garbled performs batch_eq =>
    have hw := performs.withholds_eq_false
    rw [batch_eq] at hw
    exact ⟨performs.record.1, performs.record.2, by rw [hw]; rfl⟩

/-! ## Linting a batch -/

theorem prepare_eq (hv : config.Valid) (hb : batch.files ≠ []) (s : Session ρ τ) :
    x.prepare config batch s =
      match x.request s with
      | (.error e, s₁) => (.error (.io e), s₁)
      | (.ok o, s₁) =>
        if (Command.ofBatch config o batch.files).overlong config then
          (.error (.invalidConfiguration
            ((Command.ofBatch config o batch.files).overlongText config)), s₁.release o)
        else (.ok (Command.ofBatch config o batch.files), s₁) := by
  rw [prepare, Command.build, Config.check_eq_ok_iff.mpr hv]
  simp only [List.isEmpty_iff, hb, if_false]
  rcases x.request s with ⟨_ | o, s₁⟩
  · rfl
  · rfl

/-- Linting the batch of a round ends with what its outcome and its report say. -/
theorem Performs.lintBatch_eq {r : Round} (h : Performs x config s r s') (hv : config.Valid)
    (hb : r.batch.files ≠ []) :
    x.lintBatch config r.batch s = (r.outcome.interpret r.text, s') := by
  obtain ⟨request, fits, launch, read⟩ := h
  have hfits : (Command.ofBatch config r.output r.batch.files).overlong config = false := fits
  have hlaunch : x.launch (Command.ofBatch config r.output r.batch.files)
      (config.deadline r.batch.files.length) _ = (.ok r.outcome, _) := launch
  have hout : (Command.ofBatch config r.output r.batch.files).output = r.output := rfl
  rw [lintBatch, prepare_eq hv hb, request]
  simp only [hfits, Bool.false_eq_true, if_false, perform, hlaunch, collect, hout, read]
  rfl

/-- What an outcome and a report make of a round. -/
theorem interpret_cases (r : Round) :
    (r.Accepted ∧ r.outcome.interpret r.text = .ok r.issues) ∨
      (r.text.allBlank = true ∧ r.outcome.exitCode ≠ some 0 ∧ r.outcome.interpret r.text =
        .error (.processFailed r.outcome.exitCode r.outcome.stderr)) ∨
      ∃ f, r.text.allBlank = false ∧ Report.files r.text = .error f ∧
        r.outcome.interpret r.text = .error (Report.failure r.text f) := by
  unfold Outcome.interpret
  cases hb : r.text.allBlank with
  | true =>
    by_cases he : r.outcome.exitCode = some 0
    · have hs : r.Silent := ⟨he, hb⟩
      refine Or.inl ⟨Or.inl hs, ?_⟩
      simp [Outcome.success, he, Report.issues, hb, hs.issues_eq_nil]
    · refine Or.inr (Or.inl ⟨rfl, he, ?_⟩)
      simp [Outcome.success, he]
  | false =>
    cases hf : Report.files r.text with
    | ok files =>
      have hi : Report.issues r.text = .ok (files.flatMap Report.File.issues) := by
        simp [Report.issues, hb, hf]
      obtain ⟨ht, hr⟩ := Round.told_of_eq_ok hb hi
      exact Or.inl ⟨Or.inr ht, by simp [hi, hr]⟩
    | error f =>
      refine Or.inr (Or.inr ⟨f, rfl, rfl, ?_⟩)
      simp [Report.issues, hb, hf]

theorem interpret_of_accepted {r : Round} (h : r.Accepted) :
    r.outcome.interpret r.text = .ok r.issues := by
  rcases interpret_cases r with ⟨-, hi⟩ | ⟨hblank, hexit, -⟩ | ⟨f, hblank, hf, -⟩
  · exact hi
  · rcases h with hs | ht
    · exact absurd hs.1 hexit
    · exact absurd (ht.1.symm.trans hblank) (by simp)
  · rcases h with hs | ht
    · exact absurd (hs.2.symm.trans hblank) (by simp)
    · have := ht.2
      simp [Report.issues, hblank, hf] at this

/-- Linting a batch is an accepted round or a failure. -/
theorem lintBatch_cases (hv : config.Valid) (hb : batch.files ≠ []) (x : Executor ρ τ)
    (s : Session ρ τ) :
    (∃ r s', r.batch = batch ∧ Performs x config s r s' ∧ r.Accepted ∧
        x.lintBatch config batch s = (.ok r.issues, s')) ∨
      ∃ calls e s', Fails x config batch s calls e s' ∧
        x.lintBatch config batch s = (.error e, s') := by
  rw [lintBatch, prepare_eq hv hb]
  rcases hreq : x.request s with ⟨e | o, s₁⟩
  · exact Or.inr ⟨_, _, _, .request hreq, rfl⟩
  cases hfit : (Command.ofBatch config o batch.files).overlong config with
  | true => exact Or.inr ⟨_, _, _, .overlong hreq hfit, by simp only [hfit, if_true]⟩
  | false =>
    simp only [hfit, Bool.false_eq_true, if_false, perform]
    rcases hrun : x.launch (Command.ofBatch config o batch.files)
        (config.deadline batch.files.length) s₁ with ⟨e | outcome, s₂⟩
    · exact Or.inr ⟨_, _, _, .launch hreq hfit hrun, rfl⟩
    simp only [collect]
    have hout : (Command.ofBatch config o batch.files).output = o := rfl
    rw [hout]
    cases hread : o.read s₂.host.files with
    | error e => exact Or.inr ⟨_, _, _, .read hreq hfit hrun hread, rfl⟩
    | ok report =>
      let r : Round := ⟨batch, o, outcome, report⟩
      have hp : Performs x config s r (s₂.release o) := .intro hreq hfit hrun hread
      rcases interpret_cases r with ⟨ha, hi⟩ | ⟨hblank, hexit, hi⟩ | ⟨f, hblank, hf, hi⟩
      · exact Or.inl ⟨r, _, rfl, hp, ha, by rw [← hi]; rfl⟩
      · exact Or.inr ⟨_, _, _, .silent hp rfl hblank hexit, by rw [← hi]; rfl⟩
      · exact Or.inr ⟨_, _, _, .garbled hp rfl hblank hf, by rw [← hi]; rfl⟩

end Executor

/-! ## A runner with a script -/

/-- A runner whose call number `k` leaves the `k`-th report, if there is one, and ends with the
`k`-th outcome. -/
def Runner.scripted (script : Nat → Outcome × Option Bytes) : Runner Nat where
  run c _ k h :=
    match script k with
    | (outcome, none) => (.ok outcome, k + 1, h)
    | (outcome, some text) =>
      match h.files.write c.output.path text with
      | (.ok (), fs) => (.ok outcome, k + 1, { h with files := fs })
      | (.error e, fs) => (.error (.io e), k + 1, { h with files := fs })

/-- A session before anything has happened, with a directory for temporary files. -/
def Session.fresh : Session Nat TempFiles where
  runner := 0
  provider := { defaultDir := Bytes.ofString "/tmp" }
  host := { files := { entries := [([Bytes.ofString "tmp"], .dir)] } }

end LintDispatch
