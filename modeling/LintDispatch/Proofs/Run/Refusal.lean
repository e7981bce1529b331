import LintDispatch.Proofs.Run.Building
import LintDispatch.Proofs.Run.Ending
import LintDispatch.Proofs.Run.Leftovers
import LintDispatch.Proofs.Text.Blank

/-!
# Which orders are refused
The inputs of an order are looked at before anything else: whether there are any, whether the
configuration can drive a run, and whether a path is blank. `Executor.Refusal` names what keeps an
order from being carried out, with the words for it, and `Executor.carryOut_refuses` says that an
invalid argument is the answer to such an order and to no other one, and that nothing is done then.

The same checks stand again in the plan and in the building of commands. There they have nothing
left to find (`Executor.Admitted`): the inputs have been checked, and no batch of a plan is empty.
-/

namespace LintDispatch

variable {ρ τ : Type}

namespace Executor

variable {config : Config} {files : List Path} {order : Order} {s : Session ρ τ}

/-! ## Refusals -/

/-- The configuration of an order. -/
def Order.config? : Order → Option Config
  | .execute config _ => some config
  | .executeOptional config _ => config
  | .executeParallel config _ _ => some config
  | .run config _ _ => some config

/-- The files of an order. -/
def Order.files? : Order → Option (List Path)
  | .execute _ files => some files
  | .executeOptional _ files => files
  | .executeParallel _ files _ => some files
  | .run _ files _ => some files

/-- What a configuration and files are refused for, in the words of the failure. A fault of the
configuration comes before the blank paths, and of these the first one counts. -/
inductive Refusal : Option Config → Option (List Path) → String → Prop
  | noConfig (files : Option (List Path)) : Refusal none files "no configuration supplied"
  | noFiles (config : Config) : Refusal (some config) none "no file list supplied"
  | unfit {config : Config} {fault : Config.Fault} (fault_eq : config.fault? = some fault)
      (files : List Path) : Refusal (some config) (some files)
        (Failure.invalidConfiguration fault.message).message
  | blank {config : Config} {files : List Path} {i : Nat} (valid : config.Valid)
      (lt : i < files.length) (blank : Text.trim (Utf8.lossy files[i]) = "")
      (first : ∀ (j : Nat) (h : j < i), Text.trim (Utf8.lossy files[j]) ≠ "") :
      Refusal (some config) (some files) ("file path at position " ++ toString i ++ " is blank")

theorem findIdx?_isBlank_eq_some_iff {i : Nat} :
    files.findIdx? Bytes.isBlank = some i ↔ ∃ h : i < files.length,
      Text.trim (Utf8.lossy files[i]) = "" ∧
        ∀ (j : Nat) (h : j < i), Text.trim (Utf8.lossy files[j]) ≠ "" := by
  simp only [List.findIdx?_eq_some_iff_getElem, Bytes.isBlank_iff_trim_eq, ne_eq]

/-- The check of the inputs fails for what they are refused for. -/
theorem checkInputs_eq_error_iff {text : String} :
    checkInputs config files = .error (.invalidArgument text) ↔
      Refusal (some config) (some files) text := by
  unfold checkInputs Config.check
  constructor
  · intro h
    cases hfault : config.fault? with
    | some fault =>
      rw [hfault] at h
      obtain rfl := Failure.invalidArgument.inj (Except.error.inj h)
      exact .unfit hfault files
    | none =>
      simp only [hfault] at h
      cases hblank : files.findIdx? Bytes.isBlank with
      | none => simp [hblank] at h
      | some i =>
        rw [hblank] at h
        obtain rfl := Failure.invalidArgument.inj (Except.error.inj h)
        obtain ⟨hlt, hi, hfirst⟩ := findIdx?_isBlank_eq_some_iff.mp hblank
        exact .blank hfault hlt hi hfirst
  · intro h
    cases h with
    | unfit hfault => rw [hfault]
    | blank hv hlt hi hfirst =>
      have hvalid : config.fault? = none := hv
      simp only [hvalid, findIdx?_isBlank_eq_some_iff.mpr ⟨hlt, hi, hfirst⟩]

/-- Inputs are refused if one of them is missing or of no use. -/
theorem exists_refusal_iff {config : Option Config} {files : Option (List Path)} :
    (∃ text, Refusal config files text) ↔ config = none ∨ files = none ∨
      (∃ c ∈ config, ¬c.Valid) ∨ ∃ fs ∈ files, ∃ f ∈ fs, Text.trim (Utf8.lossy f) = "" := by
  rcases config with _ | config
  · simpa using ⟨_, Refusal.noConfig files⟩
  rcases files with _ | files
  · simpa using ⟨_, Refusal.noFiles config⟩
  have hrefused : (∃ text, Refusal (some config) (some files) text) ↔
      checkInputs config files ≠ .ok () := by
    simp only [← checkInputs_eq_error_iff]
    constructor
    · rintro ⟨text, h⟩
      simp [h]
    · intro h
      cases hcheck : checkInputs config files with
      | ok u => exact absurd hcheck h
      | error e =>
        obtain ⟨text, rfl⟩ := exists_of_checkInputs_eq_error hcheck
        exact ⟨text, rfl⟩
  rw [hrefused, ne_eq, checkInputs_eq_ok_iff, not_and_or]
  simp [Bytes.isBlank_iff_trim_eq]

/-! ## Orders -/

/-- An order with inputs lints the files in its way. -/
theorem carryOut_eq_lint (hconfig : order.config? = some config)
    (hfiles : order.files? = some files) (x : Executor ρ τ) (s : Session ρ τ) :
    x.carryOut s order = x.lint order.mode config files s := by
  cases order with
  | execute | executeParallel =>
    obtain rfl := Option.some.inj hconfig
    obtain rfl := Option.some.inj hfiles
    rfl
  | executeOptional =>
    obtain rfl : _ = some config := hconfig
    obtain rfl : _ = some files := hfiles
    rfl
  | run =>
    obtain rfl := Option.some.inj hconfig
    obtain rfl := Option.some.inj hfiles
    exact x.run_eq_lint _ _ _ s

/-- An order that is refused is answered with the refusal, and nothing else is done. -/
theorem carryOut_of_refusal {text : String} (h : Refusal order.config? order.files? text)
    (x : Executor ρ τ) (s : Session ρ τ) :
    x.carryOut s order = (.error (.invalidArgument text), s) := by
  generalize hconfig : order.config? = config, hfiles : order.files? = files at h
  cases h with
  | noConfig =>
    cases order with
    | executeOptional config files =>
      obtain rfl : config = none := hconfig
      rfl
    | _ => simp [Order.config?] at hconfig
  | noFiles =>
    cases order with
    | executeOptional config files =>
      obtain rfl : config = some _ := hconfig
      obtain rfl : files = none := hfiles
      rfl
    | _ => simp [Order.files?] at hfiles
  | unfit hfault files =>
    rw [carryOut_eq_lint hconfig hfiles,
      lint_of_checkInputs_eq_error (checkInputs_eq_error_iff.mpr (.unfit hfault files))]
  | blank hv hlt hi hfirst =>
    rw [carryOut_eq_lint hconfig hfiles,
      lint_of_checkInputs_eq_error (checkInputs_eq_error_iff.mpr (.blank hv hlt hi hfirst))]

/-- What is sure of a run whose inputs are not refused: its batches can be planned, of the building
of their commands only the request for an output file can fail, and the run itself fails only in a
batch, or because it has been cancelled, or because its workers cannot be started. -/
structure Admitted (mode : Mode) (config : Config) (files : List Path)
    (result : Except Failure RunResult) : Prop where
  plan_eq : plan config files = .ok (Plan.batches config files)
  build_eq : ∀ b ∈ Plan.batches config files, ∀ {σ : Type}
    (request : σ → Except HostError OutputFile × σ) (state : σ),
    Command.build request config b.files state =
      (((request state).1.mapError Failure.io).map (Command.ofBatch config · b.files),
        (request state).2)
  failure_cases : ∀ e, result = .error e → (∃ completed, e = .cancelled completed) ∨
    (∃ i total fileCount cause, e = .batch i total fileCount cause) ∨
      ∃ reason, mode.obstacle? = some reason ∧ e = .io (.other reason)

theorem lint_admitted (h : checkInputs config files = .ok ()) (x : Executor ρ τ) (mode : Mode)
    (s : Session ρ τ) : Admitted mode config files (x.lint mode config files s).1 where
  plan_eq := plan_eq_ok (valid_of_checkInputs h) files
  build_eq b hb _ request state := Command.build_of_usable (valid_of_checkInputs h)
    ((Plan.isGreedy_batches config files).nonempty b hb) request state
  failure_cases e he := by
    cases hobstacle : mode.obstacle? with
    | some reason =>
      rw [lint_of_obstacle hobstacle h] at he
      exact Or.inr (Or.inr ⟨reason, rfl, (Except.error.inj he).symm⟩)
    | none =>
      obtain ⟨history, lives, a, -⟩ := lint_accounts hobstacle h x s
      exact (a.failure_cases he).imp_right Or.inl

/-- An order is answered with an invalid argument exactly if its inputs are refused, and then
nothing is done. For other inputs no later check fails. -/
theorem carryOut_refuses (x : Executor ρ τ) (order : Order) (s : Session ρ τ) :
    (∀ text, (x.carryOut s order).1 = .error (.invalidArgument text) ↔
      Refusal order.config? order.files? text) ∧
    ((∃ text, Refusal order.config? order.files? text) ↔
      order.config? = none ∨ order.files? = none ∨ (∃ config ∈ order.config?, ¬config.Valid) ∨
        ∃ files ∈ order.files?, ∃ f ∈ files, Text.trim (Utf8.lossy f) = "") ∧
    (∀ text, Refusal order.config? order.files? text → (x.carryOut s order).2 = s) ∧
    ((∀ text, ¬Refusal order.config? order.files? text) → ∃ config files,
      order.config? = some config ∧ order.files? = some files ∧
        Admitted order.mode config files (x.carryOut s order).1) := by
  have hadmitted : (∀ text, ¬Refusal order.config? order.files? text) → ∃ config files,
      order.config? = some config ∧ order.files? = some files ∧
        Admitted order.mode config files (x.carryOut s order).1 := by
    intro hnone
    have husable := mt exists_refusal_iff.mpr (not_exists.mpr hnone)
    obtain ⟨config, hconfig⟩ := Option.ne_none_iff_exists'.mp fun h => husable (Or.inl h)
    obtain ⟨files, hfiles⟩ := Option.ne_none_iff_exists'.mp fun h => husable (Or.inr (Or.inl h))
    refine ⟨config, files, hconfig, hfiles, ?_⟩
    rw [carryOut_eq_lint hconfig hfiles]
    refine lint_admitted ?_ x order.mode s
    cases hcheck : checkInputs config files with
    | ok u => rfl
    | error e =>
      obtain ⟨text, rfl⟩ := exists_of_checkInputs_eq_error hcheck
      rw [checkInputs_eq_error_iff, ← hconfig, ← hfiles] at hcheck
      exact absurd hcheck (hnone text)
  refine ⟨fun text => ⟨fun h => ?_, fun h => by rw [carryOut_of_refusal h]⟩, exists_refusal_iff,
    fun text h => by rw [carryOut_of_refusal h], hadmitted⟩
  by_cases hrefused : ∃ text, Refusal order.config? order.files? text
  · obtain ⟨text', h'⟩ := hrefused
    rw [carryOut_of_refusal h'] at h
    obtain rfl := Failure.invalidArgument.inj (Except.error.inj h)
    exact h'
  · obtain ⟨config, files, -, -, admitted⟩ := hadmitted (not_exists.mp hrefused)
    rcases admitted.failure_cases _ h with ⟨_, h⟩ | ⟨_, _, _, _, h⟩ | ⟨_, -, h⟩ <;> cases h

/-- Several workers are told to lint two blank paths, one of them with a wide blank. -/
def twoBlanks : Order :=
  .run { Plan.narrow with jobs := 2 } [[97], [0xE2, 0x80, 0x83], [32]] (.atWork [])

/-- The first of the blank paths is named, and nothing is done. A run of other files is admitted,
though it fails in its second batch. -/
theorem carryOut_failsOnce_refuses :
    (∃ s', failsOnce.carryOut .fresh twoBlanks =
      (.error (.invalidArgument "file path at position 1 is blank"), s') ∧ s' = .fresh) ∧
    ∃ config files, (Order.execute Plan.narrow [[97], [98], [99]]).files? = some files ∧
      Admitted .inTurn config files
        (failsOnce.carryOut .fresh (.execute Plan.narrow [[97], [98], [99]])).1 := by
  have hblank : checkInputs { Plan.narrow with jobs := 2 } [[97], [0xE2, 0x80, 0x83], [32]] =
      .error (.invalidArgument "file path at position 1 is blank") := by decide +kernel
  have hrefused : Refusal twoBlanks.config? twoBlanks.files? "file path at position 1 is blank" :=
    checkInputs_eq_error_iff.mp hblank
  have hcheck : checkInputs Plan.narrow [[97], [98], [99]] = .ok () := by decide +kernel
  obtain ⟨hiff, -, hidle, -⟩ := carryOut_refuses failsOnce twoBlanks .fresh
  obtain ⟨-, -, -, hadmitted⟩ :=
    carryOut_refuses failsOnce (.execute Plan.narrow [[97], [98], [99]]) .fresh
  refine ⟨⟨_, Prod.ext ((hiff _).mpr hrefused) rfl, hidle _ hrefused⟩, ?_⟩
  obtain ⟨config, files, -, hfiles, admitted⟩ := hadmitted fun text h => by
    rw [Order.config?, Order.files?, ← checkInputs_eq_error_iff, hcheck] at h
    cases h
  exact ⟨config, files, hfiles, admitted⟩

end Executor

end LintDispatch
