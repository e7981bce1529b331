import LintDispatch.Proofs.Run.Parallel

/-!
# The length of the commands that are run
A plan is made before any output path is known, with room for a path of a fixed length. So the
command of a batch is longer than planned by what its output path takes beyond the reserve
(`renderedLength_command`), and a batch that fits in the plan is only too long with a path beyond
the reserve, in which case it is not run at all.

`lint_keeps_limit`: every command that is run keeps to the limit, except that of a single file which
is too long by itself. A failure of a batch that blames the configuration comes from a path beyond
the reserve, or from the runner.
-/

namespace LintDispatch

variable {ρ τ : Type} {config : Config}

/-! ## The length of a command -/

namespace Command

theorem lengthOf_append {args : List Bytes} (h : args ≠ []) (more : List Bytes) :
    lengthOf (args ++ more) = lengthOf args + more.flatten.length + more.length := by
  have hpos : 0 < args.length := List.length_pos_of_ne_nil h
  simp only [lengthOf, List.flatten_append, List.length_append]
  omega

theorem fixedArgs_ne_nil (config : Config) (output : Path) : fixedArgs config output ≠ [] := by
  simp [fixedArgs]

/-- The output path counts with its own length. -/
theorem lengthOf_fixedArgs (config : Config) (output : Path) :
    lengthOf (fixedArgs config output) = lengthOf (fixedArgs config []) + output.length := by
  simp only [lengthOf, fixedArgs, List.flatten_append, List.flatten_cons, List.length_append,
    List.length_cons, List.flatten_nil, List.length_nil]
  omega

end Command

namespace Batch

/-- A command differs from the planned one in the length of its output path. -/
theorem renderedLength_command (config : Config) (b : Batch) (o : OutputFile) :
    (b.command config o).renderedLength + Config.outputPathReserve =
      Plan.renderedLength config b.files + o.path.length := by
  rw [command, Command.ofBatch, Command.renderedLength,
    Command.lengthOf_append (Command.fixedArgs_ne_nil config _), Command.lengthOf_fixedArgs,
    Plan.renderedLength, Command.fixedLength]
  omega

/-- The output path is longer than the reserve, and the command is too long with it. -/
def TooLong (config : Config) (b : Batch) (o : OutputFile) : Prop :=
  Config.outputPathReserve < o.path.length ∧
    config.maxCommandLength.toNat < (b.command config o).renderedLength

/-- The command keeps to the limit. The only other one is that of a file which is too long by
itself, with an output path within the reserve. -/
def Bounded (config : Config) (b : Batch) (o : OutputFile) : Prop :=
  (b.command config o).renderedLength ≤ config.maxCommandLength.toNat ∨
    ∃ file, b.files = [file] ∧ o.path.length ≤ Config.outputPathReserve ∧
      config.maxCommandLength.toNat < Plan.renderedLength config [file]

theorem overlong_command_iff (b : Batch) (o : OutputFile) :
    (b.command config o).overlong config = true ↔ b.TooLong config o := by
  simp only [Command.overlong, TooLong, Bool.and_eq_true, decide_eq_true_eq]
  rfl

/-- A batch of a plan whose command is handed on has a bounded one. -/
theorem bounded_of_fits {b : Batch} {o : OutputFile} (hplan : Plan.Fits config b.files)
    (hfits : (b.command config o).overlong config = false) : b.Bounded config o := by
  have hshort : ¬b.TooLong config o := by
    rw [← overlong_command_iff, hfits]
    exact Bool.false_ne_true
  by_cases hle : (b.command config o).renderedLength ≤ config.maxCommandLength.toNat
  · exact Or.inl hle
  -- the path is within the reserve, so the planned length was beyond the limit as well
  have hpath : o.path.length ≤ Config.outputPathReserve := by
    by_contra hlong
    exact hshort ⟨Nat.not_le.mp hlong, Nat.not_le.mp hle⟩
  have hlen := renderedLength_command config b o
  rcases hplan with hplan | ⟨file, hfile⟩
  · omega
  · exact Or.inr ⟨file, hfile, hpath, by rw [← hfile]; omega⟩

namespace Fate

variable {total : Nat} {b : Batch} {r : Except Failure (List Issue)} {ds : List Deed}

/-- What is run for a batch is its command with the output file it was given, if that is not too
long. -/
theorem exists_of_call (fate : b.Fate config total r ds) {c : Call}
    {answer : Except Failure Outcome} {fs : FileSystem} (hc : .call c answer fs ∈ ds) :
    ∃ o, .ask (.ok o) ∈ ds ∧ c = b.call config o ∧
      (b.command config o).overlong config = false := by
  cases fate with
  | cancelled | refused | rejected => simp at hc
  | crashed o _ _ fits | unread o _ _ _ fits | judged o _ _ _ fits =>
    exact ⟨o, by simp, by simp_all, fits⟩

/-- With an output file that makes its command too long the batch has failed without being run. -/
theorem rejected_of_ask (fate : b.Fate config total r ds) {o : OutputFile}
    (ho : .ask (.ok o) ∈ ds) (hlong : b.TooLong config o) :
    (∀ c answer fs, .call c answer fs ∉ ds) ∧
      r = .error (.batch b.index total b.files.length
        (.invalidConfiguration ((b.command config o).overlongText config))) := by
  rw [← overlong_command_iff] at hlong
  cases fate with
  | cancelled | refused => simp at ho
  | rejected o' _ =>
    obtain rfl : o = o' := by simpa using ho
    exact ⟨by simp, rfl⟩
  | crashed o' _ _ fits | unread o' _ _ _ fits | judged o' _ _ _ fits =>
    obtain rfl : o = o' := by simpa using ho
    exact absurd (hlong.symm.trans fits) (by simp)

/-- A failure of the batch that blames the configuration comes from an output path beyond the
reserve, or from the runner. -/
theorem cause_of_invalidConfiguration {i n count : Nat} {cause : Failure} {text : String}
    (fate : b.Fate config total (.error (.batch i n count cause)) ds)
    (hroot : cause.rootCause = .invalidConfiguration text) :
    (∃ o, .ask (.ok o) ∈ ds ∧ b.TooLong config o ∧
      cause = .invalidConfiguration ((b.command config o).overlongText config)) ∨
      ∃ c fs, .call c (.error cause) fs ∈ ds := by
  generalize hr : Except.error (Failure.batch i n count cause) = r at fate
  cases fate with
  | cancelled => simp at hr
  | refused e =>
    obtain ⟨-, -, -, rfl⟩ := Failure.batch.inj (Except.error.inj hr)
    simp [Failure.rootCause] at hroot
  | rejected o overlong =>
    obtain ⟨-, -, -, rfl⟩ := Failure.batch.inj (Except.error.inj hr)
    exact Or.inl ⟨o, by simp, (overlong_command_iff b o).mp overlong, rfl⟩
  | crashed o e fs =>
    obtain ⟨-, -, -, rfl⟩ := Failure.batch.inj (Except.error.inj hr)
    exact Or.inr ⟨b.call config o, fs, by simp⟩
  | unread o outcome fs e =>
    obtain ⟨-, -, -, rfl⟩ := Failure.batch.inj (Except.error.inj hr)
    simp [Failure.rootCause] at hroot
  | judged o outcome fs report =>
    -- a report is refused for what the process did or for what stands in it
    rcases Executor.interpret_cases ⟨b, o, outcome, report⟩ with
      ⟨-, hi⟩ | ⟨-, -, hi⟩ | ⟨f, -, -, hi⟩
    all_goals replace hi : outcome.interpret (report.getD []) = _ := hi
    all_goals rw [hi] at hr
    · simp [Executor.located, Except.mapError] at hr
    all_goals
      obtain ⟨-, -, -, rfl⟩ := Failure.batch.inj (Except.error.inj hr)
      simp [Failure.rootCause, Report.failure] at hroot

end Fate

end Batch

namespace Executor

variable {x : Executor ρ τ}

/-- What a run says and does about commands that are too long. -/
structure KeepsLimit (x : Executor ρ τ) (config : Config) (files : List Path)
    (s s' : Session ρ τ) (result : Except Failure RunResult) (batches : List Batch)
    (history : History) (lives : List Life) : Prop extends
    Accounts x config files s s' result batches history lives where
  /-- What is run is the command of a batch, and it is bounded. -/
  bounded : ∀ i c answer fs, .deed i (.call c answer fs) ∈ history → ∃ b o, batches[i]? = some b ∧
    c = b.call config o ∧ b.Bounded config o
  /-- A batch whose output path makes its command too long fails for that without being run. -/
  rejected : ∀ i b o, batches[i]? = some b → .deed i (.ask (.ok o)) ∈ history →
    b.TooLong config o → (∀ c answer fs, .deed i (.call c answer fs) ∉ history) ∧
      ∃ l ∈ lives[i]?, l.result = some (.error (.batch i batches.length b.files.length
        (.invalidConfiguration ((b.command config o).overlongText config))))
  /-- No other batch fails for its configuration, unless that is the answer of the runner. -/
  only : ∀ i b l j total count cause text, batches[i]? = some b → lives[i]? = some l →
    l.result = some (.error (.batch j total count cause)) →
    cause.rootCause = .invalidConfiguration text →
      (∃ o, .deed i (.ask (.ok o)) ∈ history ∧ b.TooLong config o ∧
        cause = .invalidConfiguration ((b.command config o).overlongText config)) ∨
      ∃ c fs, .deed i (.call c (.error cause) fs) ∈ history

theorem Accounts.keepsLimit {files : List Path} {s s' : Session ρ τ}
    {result : Except Failure RunResult} {batches : List Batch} {history : History}
    {lives : List Life} (a : Accounts x config files s s' result batches history lives) :
    KeepsLimit x config files s s' result batches history lives where
  toAccounts := a
  bounded i c answer fs hc := by
    obtain ⟨b, l, r, hb, -, -, -, fate⟩ := a.exists_fate hc
    obtain ⟨o, -, hcall, hfits⟩ := fate.exists_of_call (History.mem_of.mpr hc)
    have hgreedy := Plan.isGreedy_of_plan_eq_ok a.plan_eq
    exact ⟨b, o, hb, hcall,
      Batch.bounded_of_fits (hgreedy.fits b (List.mem_of_getElem? hb)) hfits⟩
  rejected i b o hb ho hlong := by
    obtain ⟨b', l, r, hb', hindex, hl, hr, fate⟩ := a.exists_fate ho
    obtain rfl : b = b' := Option.some.inj (hb.symm.trans hb')
    obtain ⟨hcalls, hresult⟩ := fate.rejected_of_ask (History.mem_of.mpr ho) hlong
    refine ⟨fun c answer fs hc => hcalls c answer fs (History.mem_of.mpr hc), l, hl, ?_⟩
    rw [hr, hresult, hindex]
  only i b l j total count cause text hb hl hresult hroot := by
    obtain ⟨b', hb', -, hdeeds, hlived⟩ := a.exists_lived hl
    obtain rfl : b = b' := Option.some.inj (hb.symm.trans hb')
    rw [Batch.Lived, hresult] at hlived
    rcases hlived.cause_of_invalidConfiguration hroot with ⟨o, ho, hlong, hcause⟩ | ⟨c, fs, hc⟩
    · exact Or.inl ⟨o, History.mem_of.mp (hdeeds ▸ ho), hlong, hcause⟩
    · exact Or.inr ⟨c, fs, History.mem_of.mp (hdeeds ▸ hc)⟩

/-- No run hands on a command beyond the limit, but for a file that is too long by itself. Only a
run whose workers cannot be started does not get so far, and it hands on nothing. -/
theorem lint_keeps_limit {files : List Path} (hv : config.Valid)
    (hfiles : ∀ f ∈ files, f.isBlank = false) (x : Executor ρ τ) (mode : Mode)
    (s : Session ρ τ) :
    (∃ reason, mode.obstacle? = some reason ∧
        x.lint mode config files s = (.error (.io (.other reason)), s)) ∨
      ∃ batches history lives,
        KeepsLimit x config files s (x.lint mode config files s).2 (x.lint mode config files s).1
          batches history lives := by
  have hcheck := checkInputs_eq_ok hv hfiles
  cases hobstacle : mode.obstacle? with
  | some reason => exact Or.inl ⟨reason, rfl, lint_of_obstacle hobstacle hcheck x s⟩
  | none =>
    obtain ⟨history, lives, a, -⟩ := lint_accounts hobstacle hcheck x s
    exact Or.inr ⟨_, history, lives, a.keepsLimit⟩

/-- An executor whose output files lie at a path beyond the reserve. -/
def remote : Executor Nat Unit where
  runner := tellsOnce.runner
  provider := ⟨fun t fs => (.ok ⟨47 :: List.replicate 300 97, false⟩, t, fs)⟩

/-- A run of two files that is given up because of the output path. -/
theorem lint_remote_keeps_limit :
    Plan.narrow.Valid ∧ (∀ f ∈ [[97], [98]], Bytes.isBlank f = false) ∧
      (remote.lint .inTurn Plan.narrow [[97], [98]] ⟨0, (), { files := {} }, 0, []⟩).2.calls = [] ∧
      ∃ batches history lives,
        KeepsLimit remote Plan.narrow [[97], [98]] ⟨0, (), { files := {} }, 0, []⟩
          (remote.lint .inTurn Plan.narrow [[97], [98]] ⟨0, (), { files := {} }, 0, []⟩).2
          (remote.lint .inTurn Plan.narrow [[97], [98]] ⟨0, (), { files := {} }, 0, []⟩).1
          batches history lives := by
  have hv : Plan.narrow.Valid := by decide
  have hfiles : ∀ f ∈ [[97], [98]], Bytes.isBlank f = false := by decide +kernel
  refine ⟨hv, hfiles, by decide +kernel, ?_⟩
  rcases lint_keeps_limit hv hfiles remote .inTurn _ with ⟨reason, hobstacle, -⟩ | hkeeps
  · simp [Mode.obstacle?] at hobstacle
  · exact hkeeps

end Executor

end LintDispatch
