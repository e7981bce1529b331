import LintDispatch.Proofs.Run.Limit

/-!
# Building commands
Building the command of a batch looks at the configuration first, then at the files, and asks for an
output file only if both can be used. `Command.build_agrees_with_plan` says what comes of it in each
case: what is refused is refused without a request, and a command that is built has been asked one
output file for. Its line is as long as the plan has it, with the path of the report in the place of
the reserve; the path stands after its flag, and the files are the last arguments.
-/

namespace LintDispatch

variable {ρ τ : Type}

namespace Command

variable {σ : Type} {config : Config} {files : List Path}

/-! ## Without an output file -/

/-- A configuration with a fault is refused, whatever the files are. -/
theorem build_of_fault {fault : Config.Fault} (h : config.fault? = some fault)
    (request : σ → Except HostError OutputFile × σ) (files : List Path) (s : σ) :
    build request config files s = (.error (.invalidConfiguration fault.message), s) := by
  rw [build, Config.check, h]

theorem build_nil (hv : config.Valid) (request : σ → Except HostError OutputFile × σ) (s : σ) :
    build request config [] s =
      (.error (.invalidInput "cannot build a command for an empty batch"), s) := by
  rw [build, Config.check_eq_ok_iff.mpr hv]
  rfl

/-! ## With an output file -/

/-- For files and a configuration that can be used, only the request can fail. -/
theorem build_of_usable (hv : config.Valid) (hne : files ≠ [])
    (request : σ → Except HostError OutputFile × σ) (s : σ) :
    build request config files s =
      (((request s).1.mapError Failure.io).map (ofBatch config · files), (request s).2) := by
  rw [build, Config.check_eq_ok_iff.mpr hv]
  simp only [List.isEmpty_iff, hne, if_false]
  rcases request s with ⟨_ | o, s'⟩ <;> rfl

/-- The arguments before the report is announced. -/
def lead (config : Config) : List Bytes :=
  (config.effectiveLauncher.map Bytes.ofString).toList ++
    [config.linter, Bytes.ofString formatFlag, Bytes.ofString config.outputFormat] ++
    (match config.effectiveRulesDir with
      | some dir => [Bytes.ofString rulesDirFlag, dir]
      | none => [])

theorem argv_ofBatch_eq_lead (config : Config) (o : OutputFile) (files : List Path) :
    (ofBatch config o files).argv = lead config ++
      (Bytes.ofString outputFileFlag :: o.path :: Bytes.ofString configFlag :: config.configFile ::
        files) := by
  rw [ofBatch, fixedArgs, List.append_assoc]
  rfl

/-- The command is the planned one for the files, with this output file. -/
structure AsPlanned (config : Config) (files : List Path) (o : OutputFile) (c : Command) :
    Prop where
  output_eq : c.output = o
  reserve_le : Config.outputPathReserve ≤ Plan.renderedLength config files
  /-- The path of the report counts in the place of the reserve. -/
  renderedLength_eq : c.renderedLength =
    Plan.renderedLength config files - Config.outputPathReserve + o.path.length
  /-- The last arguments are the files. -/
  files_le : files.length ≤ c.argv.length
  files_eq : c.argv.drop (c.argv.length - files.length) = files
  /-- The report is announced, and its path comes next. -/
  flag_eq : c.argv[(lead config).length]? = some (Bytes.ofString outputFileFlag)
  path_eq : c.argv[(lead config).length + 1]? = some o.path

theorem asPlanned_ofBatch (config : Config) (o : OutputFile) (files : List Path) :
    AsPlanned config files o (ofBatch config o files) := by
  have hargv := argv_ofBatch_eq_lead config o files
  have hlength : (ofBatch config o files).renderedLength + Config.outputPathReserve =
      Plan.renderedLength config files + o.path.length :=
    Batch.renderedLength_command config ⟨0, files⟩ o
  have hreserve : Config.outputPathReserve ≤ Plan.renderedLength config files := by
    rw [Plan.renderedLength, fixedLength]
    omega
  refine ⟨rfl, hreserve, by omega, ?_, ?_, ?_, ?_⟩
  · simp [ofBatch]
  · simp [ofBatch]
  · rw [hargv, List.getElem?_append_right (Nat.le_refl _), Nat.sub_self]
    rfl
  · rw [hargv, List.getElem?_append_right (Nat.le_add_right _ 1), Nat.add_sub_cancel_left]
    rfl

/-- For files and a configuration that can be used, one output file is asked for, and if there is
one the command is the planned one. Otherwise the configuration or else the lack of files is to
blame, and nothing is asked for. -/
theorem build_agrees_with_plan (x : Executor ρ τ) (config : Config) (files : List Path)
    (s : Session ρ τ) :
    (∀ o s', config.Valid → files ≠ [] → x.request s = (.ok o, s') →
      s'.requests = s.requests + 1 ∧
        ∃ c, build x.request config files s = (.ok c, s') ∧ AsPlanned config files o c) ∧
    (¬config.Valid → ∃ fault, config.fault? = some fault ∧
      build x.request config files s = (.error (.invalidConfiguration fault.message), s)) ∧
    (config.Valid → files = [] → build x.request config files s =
      (.error (.invalidInput "cannot build a command for an empty batch"), s)) := by
  refine ⟨fun o s' hv hne hrequest => ⟨?_, ofBatch config o files, ?_, ?_⟩, fun hv => ?_, ?_⟩
  · obtain rfl := congrArg Prod.snd hrequest
    rfl
  · rw [build_of_usable hv hne, hrequest]
    rfl
  · exact asPlanned_ofBatch config o files
  · obtain ⟨fault, hfault⟩ := Option.ne_none_iff_exists'.mp hv
    exact ⟨fault, hfault, build_of_fault hfault _ _ _⟩
  · rintro hv rfl
    exact build_nil hv _ _

/-- A configuration with a launcher between blanks and a directory with further rules. -/
def wordy : Config where
  linter := Bytes.ofString "l.js"
  configFile := Bytes.ofString "c.json"
  rulesDir := some (Bytes.ofString "rules")
  launcher := some " node "

/-- The command for two files, one of them no text: its path is shorter than the reserve. -/
theorem build_wordy_agrees_with_plan : wordy.Valid ∧
    Plan.renderedLength wordy [[97], [0xFF, 0xFE]] = 331 ∧
    ∃ o s' c, Executor.tellsOnce.request .fresh = (.ok o, s') ∧ o.path.length = 26 ∧
      build Executor.tellsOnce.request wordy [[97], [0xFF, 0xFE]] .fresh = (.ok c, s') ∧
      c.renderedLength = 97 ∧ AsPlanned wordy [[97], [0xFF, 0xFE]] o c := by
  have hv : wordy.Valid := by decide +kernel
  have hplan : Plan.renderedLength wordy [[97], [0xFF, 0xFE]] = 331 := by decide +kernel
  obtain ⟨o, s', hrequest, hpath⟩ : ∃ o s', Executor.tellsOnce.request .fresh = (.ok o, s') ∧
      o.path.length = 26 := ⟨_, _, rfl, by decide +kernel⟩
  obtain ⟨-, c, hbuild, planned⟩ := (build_agrees_with_plan Executor.tellsOnce wordy
    [[97], [0xFF, 0xFE]] .fresh).1 o s' hv (by simp) hrequest
  refine ⟨hv, hplan, o, s', c, hrequest, hpath, hbuild, ?_, planned⟩
  rw [planned.renderedLength_eq, hplan, hpath]
  rfl

end Command

end LintDispatch
