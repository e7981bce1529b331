import LintDispatch.Proofs.CommandLine.Task
import LintDispatch.Proofs.Issue.RoundTrip
import LintDispatch.Proofs.Run.Ending

/-!
# Exit codes
A build goes by the exit code of a run, so the code has to say what has come of it. A run fails in
one of its stages or in one of its batches (`Program.Fails`), or it is given up between them, for a
blank path or because its workers cannot be started (`Program.GivenUp`). Any other run finds an
error or it does not (`Program.FindsError`), and an error is a message of some report that is fatal
or has the severity 2. These cases exclude one another, and each has an exit code of its own
(`Program.concludes`). The format in which issues are shown is not among them: whatever a report
tells of can be written in each.

`Program.exitCode_tells` puts this together. The code 0 of a linter that is switched on means that
every file has been handed to one process and that no process had an error to report.
-/

namespace LintDispatch

open Arguments (Request Format)

variable {ρ τ : Type} {x : Executor ρ τ} {config : Config} {files : List Path}

/-! ## Messages -/

namespace Report.Message

/-- The message is fatal, or its severity is that of an error. -/
def IsError (m : Report.Message) : Prop := m.fatal = true ∨ m.severity = 2

theorem level_eq_error_iff {m : Report.Message} : m.level = .error ↔ m.IsError := by
  unfold level IsError
  split
  · next h => simpa using h
  · next h =>
    have hnot : ¬(m.fatal = true ∨ m.severity = 2) := by simpa using h
    split <;> simp [hnot]

end Report.Message

namespace Round

/-- The messages of the report: none if it is blank. -/
def messages (r : Round) : List Report.Message :=
  if r.text.allBlank then []
  else ((Report.files r.text).toOption.getD []).flatMap Report.File.messages

/-- The issues of a round have the severities of its messages. -/
theorem map_severity_issues (r : Round) :
    r.issues.map Issue.severity = r.messages.map Report.Message.level := by
  unfold issues messages Report.issues
  cases r.text.allBlank with
  | true => rfl
  | false =>
    cases Report.files r.text with
    | error f => rfl
    | ok fs =>
      have hissues : (fs.flatMap Report.File.issues).map Issue.severity =
          (fs.flatMap Report.File.messages).map Report.Message.level := by
        rw [List.map_flatMap, List.map_flatMap]
        refine congrArg (fun f => fs.flatMap f) (funext fun f => ?_)
        rw [Report.File.issues, List.map_map]
        rfl
      exact hissues

theorem exists_error_issue_iff (r : Round) :
    (∃ i ∈ r.issues, i.severity = .error) ↔ ∃ m ∈ r.messages, m.IsError := by
  have hsevere : (∃ i ∈ r.issues, i.severity = .error) ↔
      Severity.error ∈ r.issues.map Issue.severity := by
    simp only [List.mem_map]
  rw [hsevere, map_severity_issues, List.mem_map]
  simp only [Report.Message.level_eq_error_iff]

end Round

theorem RunResult.hasErrors_iff (result : RunResult) :
    result.hasErrors = true ↔ ∃ i ∈ result.issues, i.severity = .error := by
  simp [hasErrors, count, List.countP_pos_iff]

theorem Executor.Linted.hasErrors_iff {s s' : Session ρ τ} {result : Except Failure RunResult}
    {history : History} {rounds : List Round} {found : RunResult}
    (h : x.Linted config files s s' result history rounds) (hr : result = .ok found) :
    found.hasErrors = true ↔ ∃ r ∈ rounds, ∃ m ∈ r.messages, m.IsError := by
  obtain rfl := Except.ok.inj (hr.symm.trans h.result_eq)
  rw [RunResult.hasErrors_iff]
  simp only [List.mem_flatMap, ← Round.exists_error_issue_iff]
  constructor
  · rintro ⟨i, ⟨r, hr, hi⟩, hsevere⟩
    exact ⟨r, hr, i, hi, hsevere⟩
  · rintro ⟨r, hr, i, hi, hsevere⟩
    exact ⟨i, ⟨r, hr, hi⟩, hsevere⟩

/-! ## Exit codes -/

namespace Program

variable {crew : Crew} {r : Request} {s : Session ρ τ}

/-- The exit code of a run of the request. -/
def exitCode (x : Executor ρ τ) (crew : Crew) (r : Request) (s : Session ρ τ) : Nat :=
  (answer x crew { r with action := .run } s).1.exitCode

/-- A stage of the request fails, or a batch of its run does. A batch that the run was cancelled
before has failed as well, but on the command line nobody cancels. -/
inductive Fails (x : Executor ρ τ) (crew : Crew) (r : Request) (s : Session ρ τ) : Prop
  | settings {e : ProgramError} (load : loadSettings s.host.files r.settings = .error e)
  | config {settings : Settings} {e : ProgramError}
      (load : loadSettings s.host.files r.settings = .ok settings)
      (resolve : settings.configWith? r.overrides s.host.files.workingPath = .error e)
  | files {settings : Settings} {config : Config} {e : ProgramError}
      (load : loadSettings s.host.files r.settings = .ok settings)
      (resolve : settings.configWith? r.overrides s.host.files.workingPath = .ok (some config))
      (select : settings.filesOr r.files = .error e)
  | batch {config : Config} {files : List Path}
      (task : task s.host.files r = .ok (.lint config files))
      (fails : x.FailsInBatch config files crew s)

/-- No stage of the request fails, but its run is given up before the first batch: a file that is to
be linted has a blank path, or there are to be several workers and they cannot be started. -/
def GivenUp (fs : FileSystem) (crew : Crew) (r : Request) : Prop :=
  ∃ config files, task fs r = .ok (.lint config files) ∧ Executor.GivenUp config files crew

/-- The run of the request has a result, and these are its rounds. -/
def Lints (x : Executor ρ τ) (crew : Crew) (r : Request) (s : Session ρ τ)
    (rounds : List Round) : Prop :=
  ∃ config files history, task s.host.files r = .ok (.lint config files) ∧
    x.Linted config files s (x.run config files crew s).2 (x.run config files crew s).1
      history rounds

/-- A report of the run tells of an error. -/
def FindsError (x : Executor ρ τ) (crew : Crew) (r : Request) (s : Session ρ τ) : Prop :=
  ∃ rounds, Lints x crew r s rounds ∧ ∃ round ∈ rounds, ∃ m ∈ round.messages, m.IsError

theorem fails_iff : Fails x crew r s ↔ (∃ e, task s.host.files r = .error e) ∨
    ∃ config files, task s.host.files r = .ok (.lint config files) ∧
      x.FailsInBatch config files crew s := by
  constructor
  · intro h
    cases h with
    | @settings e load => exact Or.inl ⟨e, by simp only [task, load]⟩
    | @config _ e load resolve => exact Or.inl ⟨e, by simp only [task, load, resolve]⟩
    | @files _ _ e load resolve select =>
      exact Or.inl ⟨e, by simp only [task, load, resolve, select]; rfl⟩
    | batch task fails => exact Or.inr ⟨_, _, task, fails⟩
  · rintro (⟨e, he⟩ | ⟨config, files, htask, fails⟩)
    · have resolves := task_resolves s.host.files r
      rw [he] at resolves
      cases resolves with
      | unloaded load => exact .settings load
      | unresolved load resolve => exact .config load resolve
      | unselected load resolve _ select => exact .files load resolve select
    · exact .batch htask fails

theorem not_fails_of_givenUp (h : GivenUp s.host.files crew r) : ¬Fails x crew r s := by
  obtain ⟨config, files, htask, hgiven⟩ := h
  rw [fails_iff, htask]
  simpa using Executor.not_failsInBatch_of_givenUp hgiven

/-- The result of a run can be written in any format. -/
theorem exists_resultText {found : RunResult}
    (h : (x.run config files crew s).1 = .ok found) (format : Format) (shown : List Path) :
    ∃ text, resultText format found shown = .ok text := by
  cases format with
  | text => exact ⟨_, rfl⟩
  | json =>
    rw [x.run_eq_lint] at h
    have hvalid : ∀ i ∈ found.issues, Utf8.isValid i.path = true := by
      intro i hi
      obtain ⟨raw, issues, hraw, hi⟩ := Executor.exists_report_of_lint h i hi
      exact Report.isValid_of_issues hraw i hi
    obtain ⟨text, htext, -⟩ := readsBack_of_isValid hvalid shown
    exact ⟨text, htext⟩

theorem exitCode_of_error {e : ProgramError} (h : task s.host.files r = .error e) :
    exitCode x crew r s = 2 := by
  have h : task s.host.files { r with action := .run } = .error e := h
  simp only [exitCode, answer, showRun, h]
  rfl

theorem exitCode_of_nothing (h : task s.host.files r = .ok .nothing) :
    exitCode x crew r s = 0 := by
  have h : task s.host.files { r with action := .run } = .ok .nothing := h
  simp only [exitCode, answer, showRun, h]
  rfl

theorem exitCode_of_lint (h : task s.host.files r = .ok (.lint config files)) :
    exitCode x crew r s =
      match (x.run config files crew s).1 with
      | .error _ => 2
      | .ok found => if found.hasErrors then 1 else 0 := by
  have h : task s.host.files { r with action := .run } = .ok (.lint config files) := h
  simp only [exitCode, answer, showRun, h]
  cases hr : (x.run config files crew s).1 with
  | error e => rfl
  | ok found =>
    obtain ⟨text, htext⟩ := exists_resultText hr r.format files
    simp only [resultAnswer, htext]

/-- What comes of a run of the request, with its exit code. -/
inductive Concludes (x : Executor ρ τ) (crew : Crew) (r : Request) (s : Session ρ τ) :
    Nat → Prop
  | failed (fails : Fails x crew r s ∨ GivenUp s.host.files crew r)
      (found : ¬FindsError x crew r s) : Concludes x crew r s 2
  | erroneous (fails : ¬(Fails x crew r s ∨ GivenUp s.host.files crew r))
      (found : FindsError x crew r s) : Concludes x crew r s 1
  | clean (fails : ¬(Fails x crew r s ∨ GivenUp s.host.files crew r))
      (found : ¬FindsError x crew r s) : Concludes x crew r s 0

namespace Concludes

variable {code : Nat}

theorem eq_two_iff (h : Concludes x crew r s code) :
    code = 2 ↔ Fails x crew r s ∨ GivenUp s.host.files crew r := by
  cases h with
  | failed fails => simp [fails]
  | erroneous fails | clean fails => simp [fails]

theorem eq_one_iff (h : Concludes x crew r s code) : code = 1 ↔ FindsError x crew r s := by
  cases h with
  | failed _ found | erroneous _ found | clean _ found => simp [found]

theorem eq_zero_iff (h : Concludes x crew r s code) :
    code = 0 ↔ ¬(Fails x crew r s ∨ GivenUp s.host.files crew r) ∧
      ¬FindsError x crew r s := by
  cases h with
  | failed fails found | erroneous fails found | clean fails found => simp [fails, found]

end Concludes

theorem not_findsError (h : ∀ config files, task s.host.files r = .ok (.lint config files) →
    ∃ e, (x.run config files crew s).1 = .error e) : ¬FindsError x crew r s := by
  rintro ⟨rounds, ⟨config, files, history, htask, linted⟩, -⟩
  obtain ⟨e, he⟩ := h config files htask
  exact absurd (he.symm.trans linted.result_eq) (by simp)

/-- A request with something to lint fails, or is given up, if its run fails. -/
theorem fails_or_givenUp_iff (htask : task s.host.files r = .ok (.lint config files)) :
    (Fails x crew r s ∨ GivenUp s.host.files crew r) ↔
      ∃ e, (x.run config files crew s).1 = .error e := by
  rw [Executor.run_eq_error_iff (valid_of_task htask), fails_iff, GivenUp, htask]
  simp

/-- A request that does not fail has something to lint, if the linter is switched on. -/
theorem exists_lint_of_enabled {settings : Settings}
    (load : loadSettings s.host.files r.settings = .ok settings) (enabled : settings.enabled = true)
    (hok : ¬Fails x crew r s) :
    ∃ config files, task s.host.files r = .ok (.lint config files) := by
  have resolves := task_resolves s.host.files r
  cases htask : task s.host.files r with
  | error e => exact absurd (fails_iff.mpr (Or.inl ⟨e, htask⟩)) hok
  | ok t =>
    rw [htask] at resolves
    cases resolves with
    | disabled load' _ disabled =>
      obtain rfl := Except.ok.inj (load.symm.trans load')
      exact absurd (enabled.symm.trans disabled) (by simp)
    | ready => exact ⟨_, _, rfl⟩

theorem findsError_iff (htask : task s.host.files r = .ok (.lint config files))
    {found : RunResult} (hr : (x.run config files crew s).1 = .ok found) :
    FindsError x crew r s ↔ found.hasErrors = true := by
  constructor
  · rintro ⟨rounds, ⟨config', files', history, htask', linted⟩, herror⟩
    obtain ⟨rfl, rfl⟩ : config = config' ∧ files = files' := by simpa [htask] using htask'
    exact (linted.hasErrors_iff hr).mpr herror
  · intro herror
    obtain ⟨history, rounds, linted⟩ := Executor.exists_linted_of_run (valid_of_task htask) hr
    exact ⟨rounds, ⟨config, files, history, htask, linted⟩, (linted.hasErrors_iff hr).mp herror⟩

/-- The exit code goes with what has come of the run. -/
theorem concludes (x : Executor ρ τ) (crew : Crew) (r : Request) (s : Session ρ τ) :
    Concludes x crew r s (exitCode x crew r s) := by
  cases htask : task s.host.files r with
  | error e =>
    rw [exitCode_of_error htask]
    exact .failed (Or.inl (fails_iff.mpr (Or.inl ⟨e, htask⟩))) (not_findsError (by simp [htask]))
  | ok t =>
    cases t with
    | nothing =>
      rw [exitCode_of_nothing htask]
      exact .clean (by simp [fails_iff, GivenUp, htask]) (not_findsError (by simp [htask]))
    | lint config files =>
      have hfails : Fails x crew r s ∨ GivenUp s.host.files crew r ↔ _ :=
        fails_or_givenUp_iff htask
      rw [exitCode_of_lint htask]
      cases hr : (x.run config files crew s).1 with
      | error e =>
        refine .failed (hfails.mpr ⟨e, hr⟩) (not_findsError fun config' files' h => ?_)
        obtain ⟨rfl, rfl⟩ : config = config' ∧ files = files' := by simpa [htask] using h
        exact ⟨e, hr⟩
      | ok found =>
        have hok : ¬(Fails x crew r s ∨ GivenUp s.host.files crew r) := by
          rw [hfails, hr]
          simp
        have hfound := findsError_iff htask hr
        cases herror : found.hasErrors with
        | true =>
          simp only [herror, if_true]
          exact .erroneous hok (hfound.mpr herror)
        | false =>
          simp only [herror, Bool.false_eq_true, if_false]
          exact .clean hok (by simp [hfound, herror])

/-- The exit code does not depend on the format. -/
theorem exitCode_format (x : Executor ρ τ) (crew : Crew) (r : Request) (s : Session ρ τ)
    (format : Format) :
    exitCode x crew { r with format := format } s = exitCode x crew r s := by
  cases htask : task s.host.files r with
  | error e =>
    have htask' : task s.host.files { r with format := format } = .error e := htask
    rw [exitCode_of_error htask, exitCode_of_error htask']
  | ok t =>
    have htask' : task s.host.files { r with format := format } = .ok t := htask
    cases t with
    | nothing => rw [exitCode_of_nothing htask, exitCode_of_nothing htask']
    | lint config files => rw [exitCode_of_lint htask, exitCode_of_lint htask']

/-- A run that is given up is answered with a failure that is not that of a batch, and nothing is
done. -/
theorem answer_of_givenUp (h : GivenUp s.host.files crew r) (x : Executor ρ τ) :
    ∃ e, answer x crew { r with action := .run } s = (.failed (.failure e), s) ∧
      ((∃ text, e = .invalidArgument text) ∨ ∃ reason, e = .io (.other reason)) := by
  obtain ⟨config, files, htask, hgiven⟩ := h
  obtain ⟨e, hrun, hcause⟩ := Executor.run_of_givenUp hgiven x s
  have htask : task s.host.files { r with action := .run } = .ok (.lint config files) := htask
  exact ⟨e, by simp only [answer, showRun, htask, hrun, resultAnswer], hcause⟩

/-- The exit code of a run tells what has come of it, for all settings, overrides, files, formats
and linters, and whatever the host makes of the demand for workers. It is 2 if the settings could
not be loaded, the configuration not resolved, the files not selected or a batch failed, and also
if the run was given up before its first batch, for a blank path or for want of workers, and then
nothing has been run; it is 1 if there was none of this and a report told of an error; and otherwise
it is 0. So with 0 for a linter that is switched on, every file has been handed to one process, and
each process has ended well with nothing to report or has left a report without errors. -/
theorem exitCode_tells (x : Executor ρ τ) (crew : Crew) (r : Request) (s : Session ρ τ) :
    (exitCode x crew r s = 2 ↔ Fails x crew r s ∨ GivenUp s.host.files crew r) ∧
      (GivenUp s.host.files crew r → ¬Fails x crew r s ∧
        ∃ e, answer x crew { r with action := .run } s = (.failed (.failure e), s) ∧
          ((∃ text, e = .invalidArgument text) ∨ ∃ reason, e = .io (.other reason))) ∧
      (exitCode x crew r s = 1 ↔ FindsError x crew r s) ∧
      (exitCode x crew r s = 0 ↔
        ¬(Fails x crew r s ∨ GivenUp s.host.files crew r) ∧ ¬FindsError x crew r s) ∧
      (∀ settings, loadSettings s.host.files r.settings = .ok settings → settings.enabled = true →
        exitCode x crew r s = 0 → ∃ rounds, Lints x crew r s rounds ∧
          ∀ round ∈ rounds, round.Silent ∨ round.Told ∧ ∀ m ∈ round.messages, ¬m.IsError) ∧
      ∀ format, exitCode x crew { r with format := format } s = exitCode x crew r s := by
  have hconcludes := concludes x crew r s
  refine ⟨hconcludes.eq_two_iff, fun h => ⟨not_fails_of_givenUp h, answer_of_givenUp h x⟩,
    hconcludes.eq_one_iff, hconcludes.eq_zero_iff, ?_, exitCode_format x crew r s⟩
  intro settings load enabled hzero
  obtain ⟨hok, hclean⟩ := hconcludes.eq_zero_iff.mp hzero
  obtain ⟨config, files, htask⟩ :=
    exists_lint_of_enabled load enabled fun fails => hok (Or.inl fails)
  cases hr : (x.run config files crew s).1 with
  | error e => exact absurd ((fails_or_givenUp_iff htask).mpr ⟨e, hr⟩) hok
  | ok found =>
    obtain ⟨history, rounds, linted⟩ := Executor.exists_linted_of_run (valid_of_task htask) hr
    have lints : Lints x crew r s rounds := ⟨config, files, history, htask, linted⟩
    refine ⟨rounds, lints, fun round hround => (linted.accepted round hround).imp_right ?_⟩
    exact fun told => ⟨told, fun m hm herror =>
      hclean ⟨rounds, lints, round, hround, m, hm, herror⟩⟩

/-- A message of severity 2 is reported about every batch. -/
def alarming : Executor Nat TempFiles where
  runner := .scripted fun _ => ({ exitCode := some 1 },
    some (Report.write [⟨"a", [{ message := "m", severity := 2 }]⟩]))
  provider := TempFiles.provider

example : exitCode Executor.tellsOnce (.atWork []) (narrowRequest [[97], [98], [99]]) .fresh = 0 ∧
    exitCode alarming (.atWork []) (narrowRequest [[97], [98], [99]]) .fresh = 1 ∧
    exitCode Executor.failsOnce (.atWork []) (narrowRequest [[97], [98], [99]]) .fresh = 2 := by
  decide +kernel

/-- A request like `narrowRequest` for two workers. -/
def pairedRequest (files : List Path) : Request :=
  { narrowRequest files with
    overrides := { (narrowRequest files).overrides with jobs := some 2 } }

/-- A run that is given up has the exit code 2, although nothing has failed. -/
theorem not_exitCode_iff_of_givenUp (h : GivenUp s.host.files crew r) :
    ¬(exitCode x crew r s = 2 ↔ Fails x crew r s) := by
  have hcode := (concludes x crew r s).eq_two_iff.mpr (Or.inr h)
  exact fun hiff => not_fails_of_givenUp h (hiff.mp hcode)

/-- A path of one space is enough for the exit code 2, and so are two workers that cannot be
started, although no stage fails and no batch. -/
theorem exitCode_exceptions :
    ¬(exitCode Executor.tellsOnce (.atWork []) (narrowRequest [[32]]) .fresh = 2 ↔
        Fails Executor.tellsOnce (.atWork []) (narrowRequest [[32]]) .fresh) ∧
      ¬(exitCode Executor.tellsOnce (.unavailable "no threads") (pairedRequest [[97]]) .fresh = 2 ↔
        Fails Executor.tellsOnce (.unavailable "no threads") (pairedRequest [[97]]) .fresh) := by
  have hblank : task Session.fresh.host.files (narrowRequest [[32]]) =
      .ok (.lint Plan.narrow [[32]]) := by decide +kernel
  have hpaired : task Session.fresh.host.files (pairedRequest [[97]]) =
      .ok (.lint Executor.paired [[97]]) := by decide +kernel
  exact ⟨not_exitCode_iff_of_givenUp
      ⟨_, _, hblank, .blank (List.mem_singleton_self _) (by decide +kernel)⟩,
    not_exitCode_iff_of_givenUp ⟨_, _, hpaired, .unstaffed (by decide) rfl⟩⟩

end Program

end LintDispatch
