import LintDispatch.Command
import LintDispatch.Relaxed.Value
import LintDispatch.Settings.Schema

/-!
# Settings
What a project writes down about its linter. Settings are read from relaxed JSON, checked against
the schema, and turned into the configuration of a run; relative paths in them start from the
directory of the settings file.
-/

namespace LintDispatch

/-- The settings of a project. -/
structure Settings where
  /-- The linter runs at all. -/
  enabled : Bool := true
  linter : Option String := none
  configFile : Option String := none
  rulesDir : Option String := none
  timeout : UInt64 := 60000
  launcher : Option String := some "node"
  maxCommandLength : UInt64 := 4096
  jobs : UInt64 := 1
  /-- The files to lint if none are asked for. -/
  files : Option (List String) := none
  /-- The directory that relative paths start from. -/
  baseDir : Option Path := none
  deriving DecidableEq, Repr, Inhabited

namespace Settings

open Json (Value Number)

/-- The names that a settings file may have, the preferred one first. -/
def fileNames : List String := [".lintbatch.jsonc", ".lintbatch.json"]

/-- Why settings cannot be used. -/
inductive Fault where
  /-- The file cannot be read. -/
  | unreadable (path : Path) (error : HostError)
  /-- The text is not relaxed JSON. -/
  | notJson (text : String) (fault : Relaxed.Fault)
  /-- The document breaks the schema. -/
  | invalid (problem : Problem)
  /-- A property that must be held as an integer is held as a double. -/
  | notHeldAsInteger (x : Binary64) (expected : String)
  | noLinter
  | noConfigFile
  deriving Repr

/-- The wording of a fault. -/
def Fault.message : Fault → String
  | unreadable path error => "Failed to read " ++ Utf8.lossy path ++ ": " ++ error.message
  | notJson text fault => "Invalid JSON: " ++ fault.message text
  | invalid problem => "Settings validation failed: " ++ problem.message
  | notHeldAsInteger x expected =>
    "Invalid settings: " ++
      (Json.Complaint.invalidType (.number (.float x)) expected).message
  | noLinter => "linter_path is required"
  | noConfigFile => "config_file is required"

/-- A fault ends the run. -/
def Fault.failure (f : Fault) : Failure := .settings f.message

/-! ## From a document -/

/-- A property that is a string or null, with what it is if it is absent. -/
def textOf (fields : List (String × Value)) (name : String) (absent : Option String) :
    Option String :=
  match fields.lookup name with
  | some (.string s) => some s
  | some _ => none
  | none => absent

/-- A property that is a truth value, with what it is if it is absent. -/
def truthOf (fields : List (String × Value)) (name : String) (absent : Bool) : Bool :=
  match fields.lookup name with
  | some (.bool b) => b
  | _ => absent

/-- A property that is an integer, with what it is if it is absent. -/
def countOf (fields : List (String × Value)) (name expected : String) (absent : UInt64) :
    Except Fault UInt64 :=
  match fields.lookup name with
  | some (.number (.int n)) => .ok (UInt64.ofNat n.toNat)
  | some (.number (.float x)) => .error (.notHeldAsInteger x expected)
  | _ => .ok absent

/-- The string that a value is. -/
def stringOf? : Value → Option String
  | .string s => some s
  | _ => none

/-- The strings of a property that is a list. -/
def textsOf (fields : List (String × Value)) (name : String) : Option (List String) :=
  match fields.lookup name with
  | some (.list vs) => some (vs.filterMap stringOf?)
  | _ => none

/-- The settings that a document holds which keeps to the schema. -/
def ofFields (fields : List (String × Value)) : Except Fault Settings := do
  let d : Settings := {}
  let jobs ← countOf fields "jobs" "usize" d.jobs
  let maxCommandLength ← countOf fields "max_command_length" "usize" d.maxCommandLength
  let timeout ← countOf fields "timeout_ms" "u64" d.timeout
  return {
    enabled := truthOf fields "enabled" d.enabled
    linter := textOf fields "linter_path" d.linter
    configFile := textOf fields "config_file" d.configFile
    rulesDir := textOf fields "rules_dir" d.rulesDir
    timeout := timeout
    launcher := textOf fields "launcher" d.launcher
    maxCommandLength := maxCommandLength
    jobs := jobs
    files := textsOf fields "files" }

/-- The settings that a document holds. -/
def ofValue (v : Value) : Except Fault Settings :=
  match problem? v with
  | some problem => .error (.invalid problem)
  | none =>
    match v with
    | .object fields => ofFields fields
    | v => .error (.invalid (.wrongType v "type \"object\"" ""))

/-- The settings that a text holds. A text without a value holds the defaults. -/
def ofText (text : String) : Except Fault Settings :=
  match Relaxed.parse text with
  | .error fault => .error (.notJson text fault)
  | .ok none => ofValue (.object [])
  | .ok (some v) => ofValue v

/-! ## To a document -/

/-- The settings as a document. Where they were found is not part of it. -/
def toValue (s : Settings) : Value :=
  .object <|
    [("enabled", .bool s.enabled), ("linter_path", .stringOrNull s.linter),
      ("config_file", .stringOrNull s.configFile), ("rules_dir", .stringOrNull s.rulesDir),
      ("timeout_ms", .nat s.timeout.toNat), ("launcher", .stringOrNull s.launcher),
      ("max_command_length", .nat s.maxCommandLength.toNat), ("jobs", .nat s.jobs.toNat)] ++
    match s.files with
    | some fs => [("files", .list (fs.map .string))]
    | none => []

/-- The text of the settings, on one line. -/
def text (s : Settings) : String := s.toValue.text

/-! ## Files -/

/-- Reads a settings file. Relative paths start from the directory that it was named in. -/
def ofFile (fs : FileSystem) (path : Path) : Except Fault Settings :=
  match fs.read path with
  | .error e => .error (.unreadable path e)
  | .ok bytes =>
    match Utf8.decode? bytes with
    | none => .error (.unreadable path .notText)
    | some text => (ofText text).map fun s => { s with baseDir := path.parent? }

/-- The settings file of a directory. -/
def discover (fs : FileSystem) (dir : Path) : Option Path :=
  (fileNames.map fun name => Path.join dir (Bytes.ofString name)).find? fs.isFile

/-! ## The configuration of a run -/

/-- A path of the settings as seen from where the run starts. -/
def resolve (s : Settings) (path : String) : Path :=
  let p := Bytes.ofString path
  match s.baseDir with
  | some base => if Path.isAbsolute p then p else Path.join base p
  | none => p

/-- The configuration that the settings ask for: none if they switch the linter off. -/
def config? (s : Settings) : Except Failure (Option Config) :=
  if !s.enabled then .ok none
  else
    match s.linter, s.configFile with
    | none, _ => .error Fault.noLinter.failure
    | some _, none => .error Fault.noConfigFile.failure
    | some linter, some configFile =>
      let config : Config :=
        { linter := s.resolve linter
          configFile := s.resolve configFile
          rulesDir := (s.rulesDir.filter fun d => !Text.isBlank d).map s.resolve
          timeoutPerFile := s.timeout
          launcher := s.launcher
          outputFormat := "json"
          maxCommandLength := s.maxCommandLength
          jobs := max s.jobs 1 }
      config.check.map fun _ => some config

/-- The files that the settings list, as seen from where the run starts. -/
def resolvedFiles (s : Settings) : Option (List Path) := s.files.map (·.map s.resolve)

end Settings

end LintDispatch
