import LintDispatch.Proofs.FileSystem.Fresh
import LintDispatch.Proofs.Report.Writing
import LintDispatch.Proofs.Run.Sequential

/-!
# Linters that work file by file
How the files are cut into batches cannot be told from the issues of a run, if the linter works file
by file (`Runner.PerFile`): it writes the reports of its files one after the other. Nothing is said
about its exit codes, nor about the spelling of its reports.

A batch of such a linter has the issues of its files (`lintBatch_perFile`). Batches add up to the
files of the run, and so do their issues (`runBatches_perFile`).
-/

namespace LintDispatch

variable {ρ τ : Type}

/-- Called with files and a fresh output file, the linter leaves a report there that tells what `g`
tells of each file, in order. The exit code may be any, and the report may be spelled in any way. -/
def Runner.PerFile (runner : Runner ρ) (config : Config) (g : Path → List Report.File) : Prop :=
  ∀ (o : OutputFile) (files : List Path) (deadline : UInt64) (r : ρ) (h : Host),
    o.isFresh h.files = true → ∃ outcome r' h' text,
      runner.run (Command.ofBatch config o files) deadline r h = (.ok outcome, r', h') ∧
        Report.ReportText (files.flatMap g) text ∧ o.read h'.files = .ok (some text)

namespace Executor

variable {x : Executor ρ τ} {config : Config} {g : Path → List Report.File} {s : Session ρ τ}

/-- The provider hands out a fresh output file, whose path is not longer than the reserve. -/
def supplies (x : Executor ρ τ) (s : Session ρ τ) : Bool :=
  match x.request s with
  | (.error _, _) => false
  | (.ok o, s) => o.path.length ≤ Config.outputPathReserve && o.isFresh s.host.files

/-- The session once these batches have been linted. -/
def after (x : Executor ρ τ) (config : Config) (batches : List Batch) (s : Session ρ τ) :
    Session ρ τ :=
  batches.foldl (fun s b => (x.lintBatch config b s).2) s

/-- Whenever one of the batches is come to, the run has not been cancelled and the provider has an
output file. -/
def Undisturbed (x : Executor ρ τ) (config : Config) (batches : List Batch) (s : Session ρ τ) :
    Prop :=
  ∀ k < batches.length, x.stopped (x.after config (batches.take k) s) = false ∧
    x.supplies (x.after config (batches.take k) s) = true

theorem supplies_cases (h : x.supplies s = true) : ∃ o s₁, x.request s = (.ok o, s₁) ∧
    o.path.length ≤ Config.outputPathReserve ∧ o.isFresh s₁.host.files = true := by
  unfold supplies at h
  rcases hreq : x.request s with ⟨e | o, s₁⟩
  · simp [hreq] at h
  · rw [hreq] at h
    simp only [Bool.and_eq_true, decide_eq_true_eq] at h
    exact ⟨o, s₁, rfl, h.1, h.2⟩

/-- A command is never too long for an output path within the reserve. -/
theorem overlong_eq_false {c : Command} (h : c.output.path.length ≤ Config.outputPathReserve) :
    c.overlong config = false := by
  rw [Command.overlong, Bool.and_eq_false_iff]
  exact Or.inl (decide_eq_false (Nat.not_lt.mpr h))

theorem Undisturbed.head {batch : Batch} {batches : List Batch}
    (h : x.Undisturbed config (batch :: batches) s) :
    x.stopped s = false ∧ x.supplies s = true :=
  h 0 (Nat.zero_lt_succ _)

theorem Undisturbed.tail {batch : Batch} {batches : List Batch}
    (h : x.Undisturbed config (batch :: batches) s) :
    x.Undisturbed config batches (x.lintBatch config batch s).2 :=
  fun k hk => h (k + 1) (Nat.succ_lt_succ hk)

/-- A batch has the issues of its files. -/
theorem lintBatch_perFile (hlinter : x.runner.PerFile config g) (hv : config.Valid) {batch : Batch}
    (hb : batch.files ≠ []) (hs : x.supplies s = true) :
    (x.lintBatch config batch s).1 =
      .ok (batch.files.flatMap fun f => (g f).flatMap Report.File.issues) := by
  obtain ⟨o, s₁, hreq, hlen, hfresh⟩ := supplies_cases hs
  obtain ⟨outcome, r', h', text, hrun, htext, hread⟩ := hlinter o batch.files
    (config.deadline batch.files.length) s₁.runner s₁.host hfresh
  let r : Round := ⟨batch, o, outcome, some text⟩
  have hlaunch : x.launch (r.command config) (config.deadline batch.files.length) s₁ =
      (.ok outcome,
        { s₁ with runner := r', host := h', calls := s₁.calls ++ [r.call config] }) := by
    have hrun : x.runner.run (r.command config) (config.deadline batch.files.length) s₁.runner
        s₁.host = (.ok outcome, r', h') := hrun
    rw [launch, hrun]
    rfl
  have hperforms : Performs x config s r _ := .intro hreq (overlong_eq_false hlen) hlaunch hread
  have hissues : outcome.interpret text =
      .ok (batch.files.flatMap fun f => (g f).flatMap Report.File.issues) := by
    rw [Outcome.interpret, Report.allBlank_of_list htext, Report.issues_of_reportText htext,
      List.flatMap_assoc]
    rfl
  calc (x.lintBatch config batch s).1 = outcome.interpret text :=
        congrArg Prod.fst (hperforms.lintBatch_eq hv hb)
    _ = .ok (batch.files.flatMap fun f => (g f).flatMap Report.File.issues) := hissues

theorem runBatches_perFile (hlinter : x.runner.PerFile config g) (hv : config.Valid)
    (total : Nat) : ∀ (batches : List Batch) (result : RunResult) (s : Session ρ τ),
      (∀ b ∈ batches, b.files ≠ []) → x.Undisturbed config batches s →
      (x.runBatches config total batches result s).1 =
        .ok ⟨result.issues ++ (batches.flatMap Batch.files).flatMap fun f =>
          (g f).flatMap Report.File.issues, result.batches + batches.length⟩
  | [], result, s, _, _ => by
    rw [runBatches]
    simp
  | b :: batches, result, s, hne, hs => by
    obtain ⟨hgoing, hsupplies⟩ := hs.head
    obtain ⟨hb, hne⟩ := List.forall_mem_cons.mp hne
    have hlint := lintBatch_perFile hlinter hv hb hsupplies
    rw [runBatches, runBatch, if_neg (by simp [hgoing])]
    rcases hstep : x.lintBatch config b s with ⟨issues, s₁⟩
    have htail := hs.tail
    rw [hstep] at hlint htail
    obtain rfl : issues = _ := hlint
    have hrest := runBatches_perFile hlinter hv total batches
      (result.push (b.files.flatMap fun f => (g f).flatMap Report.File.issues)) s₁ hne htail
    have hcount : result.batches + 1 + batches.length = result.batches + (b :: batches).length := by
      rw [List.length_cons]
      omega
    simp only [located, Except.mapError]
    rw [hrest, RunResult.push, hcount, List.flatMap_cons, List.flatMap_append, List.append_assoc]

/-- The issues of a run do not depend on how its files are cut into batches: they are those of the
files, in order. So any two configurations that drive the same linter lead to the same issues. -/
theorem execute_perFile_issues (x : Executor ρ τ) (g : Path → List Report.File) {files : List Path}
    (hfiles : ∀ f ∈ files, f.isBlank = false) :
    (∀ config s, config.Valid → x.runner.PerFile config g →
      x.Undisturbed config (Plan.batches config files) s →
      ∃ result, (x.execute config files s).1 = .ok result ∧
        result.issues = files.flatMap fun f => (g f).flatMap Report.File.issues) ∧
    ∀ config config' s s', config.Valid → config'.Valid → x.runner.PerFile config g →
      x.runner.PerFile config' g → x.Undisturbed config (Plan.batches config files) s →
      x.Undisturbed config' (Plan.batches config' files) s' →
      ∃ result result', (x.execute config files s).1 = .ok result ∧
        (x.execute config' files s').1 = .ok result' ∧ result.issues = result'.issues := by
  have hissues : ∀ config s, config.Valid → x.runner.PerFile config g →
      x.Undisturbed config (Plan.batches config files) s →
      ∃ result, (x.execute config files s).1 = .ok result ∧
        result.issues = files.flatMap fun f => (g f).flatMap Report.File.issues := by
    intro config s hv hlinter hs
    have hplan := Plan.isGreedy_batches config files
    have hrun := runBatches_perFile hlinter hv (Plan.batches config files).length
      (Plan.batches config files) {} s hplan.nonempty hs
    rw [hplan.files] at hrun
    have hexecute := execute_eq_runBatches (checkInputs_eq_ok hv hfiles) x s
    exact ⟨_, (congrArg Prod.fst hexecute).trans hrun, List.nil_append _⟩
  refine ⟨hissues, ?_⟩
  intro config config' s s' hv hv' hlinter hlinter' hs hs'
  obtain ⟨result, hresult, heq⟩ := hissues config s hv hlinter hs
  obtain ⟨result', hresult', heq'⟩ := hissues config' s' hv' hlinter' hs'
  exact ⟨result, result', hresult, hresult', heq.trans heq'.symm⟩

/-! ## A linter that works file by file -/

/-- The arguments before the path of the report is announced. -/
def leadingArgs (config : Config) : List Bytes :=
  (config.effectiveLauncher.map Bytes.ofString).toList ++
    [config.linter, Bytes.ofString Command.formatFlag, Bytes.ofString config.outputFormat] ++
    (match config.effectiveRulesDir with
      | some dir => [Bytes.ofString Command.rulesDirFlag, dir]
      | none => [])

theorem argv_ofBatch (config : Config) (o : OutputFile) (files : List Path) :
    (Command.ofBatch config o files).argv = leadingArgs config ++
      ([Bytes.ofString Command.outputFileFlag, o.path, Bytes.ofString Command.configFlag,
        config.configFile] ++ files) := by
  rw [← List.append_assoc]
  rfl

/-- The files that a command names, as a linter makes them out: after the path of the report comes
that of its own configuration, and then the files. -/
def namedFiles (c : Command) : List Path :=
  (c.argv.dropWhile (· != Bytes.ofString Command.outputFileFlag)).drop 4

theorem namedFiles_ofBatch
    (h : ∀ a ∈ leadingArgs config, (a != Bytes.ofString Command.outputFileFlag) = true)
    (o : OutputFile) (files : List Path) : namedFiles (Command.ofBatch config o files) = files := by
  rw [namedFiles, argv_ofBatch, List.dropWhile_append_of_pos h, List.cons_append,
    List.dropWhile_cons_of_neg (by simp)]
  rfl

/-- A linter that writes what `g` tells of its files, and ends with the exit code 1. -/
def linting (g : Path → List Report.File) : Executor Nat TempFiles where
  runner.run c _ n h :=
    match h.files.write c.output.path (Report.write ((namedFiles c).flatMap g)) with
    | (.ok (), fs) => (.ok { exitCode := some 1 }, n + 1, { h with files := fs })
    | (.error e, fs) => (.error (.io e), n + 1, { h with files := fs })
  provider := TempFiles.provider

theorem perFile_linting (g : Path → List Report.File)
    (h : ∀ a ∈ leadingArgs config, (a != Bytes.ofString Command.outputFileFlag) = true) :
    (linting g).runner.PerFile config g := by
  intro o files deadline n host hfresh
  obtain ⟨fs, hwrite, hread⟩ := o.read_write_of_isFresh hfresh (Report.write (files.flatMap g))
  refine ⟨{ exitCode := some 1 }, n + 1, { host with files := fs }, _, ?_,
    Report.reportText_write _, hread⟩
  have hwrite : host.files.write (Command.ofBatch config o files).output.path
      (Report.write (files.flatMap g)) = (.ok (), fs) := hwrite
  simp only [linting, namedFiles_ofBatch h, hwrite]

/-- A configuration with room for all files, and another way to start the linter of
`Plan.narrow`. -/
def roomy : Config :=
  { Plan.narrow with
    launcher := some "node", rulesDir := some [114], maxCommandLength := 4096, jobs := 4 }

/-- There is a message about the file `a`, and none about any other. -/
def tellsOfA (f : Path) : List Report.File :=
  if f = [97] then [⟨"a", [{ message := "m", severity := 1 }]⟩] else []

/-- Three files in two batches, and again in one. -/
theorem execute_linting_issues :
    (∃ result, ((linting tellsOfA).execute Plan.narrow [[97], [98], [99]] .fresh).1 = .ok result ∧
      result.issues = [[97], [98], [99]].flatMap fun f =>
        (tellsOfA f).flatMap Report.File.issues) ∧
    ∃ result result', ((linting tellsOfA).execute Plan.narrow [[97], [98], [99]] .fresh).1 =
        .ok result ∧ ((linting tellsOfA).execute roomy [[97], [98], [99]] .fresh).1 =
          .ok result' ∧ result.issues = result'.issues := by
  have hfiles : ∀ f ∈ [[97], [98], [99]], Bytes.isBlank f = false := by decide +kernel
  have hnarrow : (linting tellsOfA).runner.PerFile Plan.narrow tellsOfA :=
    perFile_linting tellsOfA (by decide +kernel)
  have hroomy : (linting tellsOfA).runner.PerFile roomy tellsOfA :=
    perFile_linting tellsOfA (by decide +kernel)
  have hs : (linting tellsOfA).Undisturbed Plan.narrow
      (Plan.batches Plan.narrow [[97], [98], [99]]) .fresh := by
    unfold Undisturbed
    decide +kernel
  have hs' : (linting tellsOfA).Undisturbed roomy
      (Plan.batches roomy [[97], [98], [99]]) .fresh := by
    unfold Undisturbed
    decide +kernel
  obtain ⟨hone, htwo⟩ := execute_perFile_issues (linting tellsOfA) tellsOfA hfiles
  exact ⟨hone Plan.narrow .fresh (by decide +kernel) hnarrow hs,
    htwo Plan.narrow roomy .fresh .fresh (by decide +kernel) (by decide +kernel) hnarrow hroomy
      hs hs'⟩

end Executor

end LintDispatch
