import LintDispatch.Config
import LintDispatch.Failure
import LintDispatch.OutputFile

/-!
# Command lines
The command that lints one batch:

    [launcher] linter -f format [--rules-dir dir] --output-file report --config config file ...

Arguments are passed one by one, without a shell. `renderedLength` counts what the arguments take
when they are written on one line with single spaces between them.
-/

namespace LintDispatch

/-- A command, program first, and the file that its report is expected in. -/
structure Command where
  /-- The arguments, the program being the first. -/
  argv : List Bytes
  /-- Where the report is written. -/
  output : OutputFile
  deriving DecidableEq, Repr, Inhabited

namespace Command

/-- Announces the report format. -/
def formatFlag : String := "-f"
/-- Announces the directory with further rules. -/
def rulesDirFlag : String := "--rules-dir"
/-- Announces the path of the report. -/
def outputFileFlag : String := "--output-file"
/-- Announces the linter's own configuration file. -/
def configFlag : String := "--config"

/-- The length of the arguments on one line. -/
def lengthOf (args : List Bytes) : Nat := args.flatten.length + (args.length - 1)

/-- The program to start: nothing at all if the command is empty. -/
def program (c : Command) : Bytes := c.argv.headD []

/-- The arguments after the program. -/
def args (c : Command) : List Bytes := c.argv.tail

/-- An argument as the host can take it: a zero byte would end it, so something else stands for an
argument that holds one. -/
def spoken (arg : Bytes) : Bytes :=
  if arg.contains 0 then Bytes.ofString "<string-with-nul>" else arg

/-- The command on one line, as a reader sees it. -/
def line (c : Command) : String := " ".intercalate (c.argv.map Utf8.lossy)

/-- The length of the command on one line. -/
def renderedLength (c : Command) : Nat := lengthOf c.argv

/-- The arguments before the files. -/
def fixedArgs (config : Config) (output : Path) : List Bytes :=
  (config.effectiveLauncher.map Bytes.ofString).toList ++
    [config.linter, Bytes.ofString formatFlag, Bytes.ofString config.outputFormat] ++
    (match config.effectiveRulesDir with
      | some dir => [Bytes.ofString rulesDirFlag, dir]
      | none => []) ++
    [Bytes.ofString outputFileFlag, output, Bytes.ofString configFlag, config.configFile]

/-- The length of the arguments before the files, with room for the output path set aside. -/
def fixedLength (config : Config) : Nat :=
  lengthOf (fixedArgs config []) + Config.outputPathReserve

/-- The command that lints `files` and reports to `output`. -/
def ofBatch (config : Config) (output : OutputFile) (files : List Path) : Command :=
  ⟨fixedArgs config output.path ++ files, output⟩

end Command

/-- The configuration drives a run, or the failure says why not. -/
def Config.check (config : Config) : Except Failure Unit :=
  match config.fault? with
  | none => .ok ()
  | some fault => .error (.invalidConfiguration fault.message)

theorem Config.check_eq_ok_iff {config : Config} : config.check = .ok () ↔ config.Valid := by
  unfold Config.check Config.Valid
  cases config.fault? <;> simp

/-- Builds the command for a batch with an output file from `request`, which is asked only once the
configuration and the batch are known to be usable. `σ` is whatever `request` changes. -/
def Command.build {σ : Type} (request : σ → Except HostError OutputFile × σ)
    (config : Config) (files : List Path) (s : σ) : Except Failure Command × σ :=
  match config.check with
  | .error e => (.error e, s)
  | .ok () =>
    if files.isEmpty then
      (.error (.invalidInput "cannot build a command for an empty batch"), s)
    else
      match request s with
      | (.error e, s) => (.error (.io e), s)
      | (.ok output, s) => (.ok (ofBatch config output files), s)

end LintDispatch
