import LintDispatch.CommandLine.Overrides

/-!
# Command-line arguments
The program knows two commands, each with its options and files. A long option takes its value from
the next argument or from behind an equals sign, a short one from the rest of its own argument or
from the next one. An argument that begins with a dash is never taken as a value unless it is a dash
alone, and after two dashes everything is a file. The arguments are read from left to right, and the
first one that is wrong or asks for information decides.
-/

namespace LintDispatch.Arguments

/-- How the issues are shown. -/
inductive Format where
  | text
  | json
  deriving DecidableEq, Repr, Inhabited

/-- What the program is asked to do. -/
inductive Action where
  | run
  | plan
  deriving DecidableEq, Repr, Inhabited

/-- A request to the program. -/
structure Request where
  action : Action
  settings : Option Path := none
  verbose : Bool := false
  overrides : Overrides := {}
  format : Format := .text
  files : List Path := []
  deriving DecidableEq, Repr, Inhabited

/-- Why there is no request. -/
inductive Stop where
  /-- The arguments are wrong. -/
  | usage
  | help
  | version
  deriving DecidableEq, Repr

/-- The options. -/
inductive Name where
  | settings
  | verbose
  | help
  | version
  | linter
  | linterConfig
  | rulesDir
  | timeout
  | launcher
  | noLauncher
  | maxCommandLength
  | jobs
  | format
  deriving DecidableEq, Repr

/-- How an option is written, and whether a value follows it. -/
structure Spec where
  name : Name
  long : String
  short : Option Char := none
  hasValue : Bool := true
  deriving Repr

/-- The options that may stand before and after the command. -/
def globalOptions : List Spec :=
  [⟨.settings, "settings", some 's', true⟩, ⟨.verbose, "verbose", some 'v', false⟩,
    ⟨.help, "help", some 'h', false⟩]

/-- The options of both commands. -/
def commandOptions : List Spec :=
  [⟨.linter, "linter", none, true⟩, ⟨.linterConfig, "linter-config", none, true⟩,
    ⟨.rulesDir, "rules-dir", none, true⟩, ⟨.timeout, "timeout-ms", none, true⟩,
    ⟨.launcher, "launcher", none, true⟩, ⟨.noLauncher, "no-launcher", none, false⟩,
    ⟨.maxCommandLength, "max-command-length", none, true⟩, ⟨.jobs, "jobs", some 'j', true⟩]

/-- The options that may stand before the command, or after it. -/
def optionsOf : Option Action → List Spec
  | none => globalOptions ++ [⟨.version, "version", some 'V', false⟩]
  | some .plan => globalOptions ++ commandOptions
  | some .run => globalOptions ++ commandOptions ++ [⟨.format, "format", some 'f', true⟩]

/-- What has been read. -/
structure Draft where
  action : Option Action := none
  /-- The options given since the beginning or since the command. -/
  given : List Name := []
  settings : Option Path := none
  verbose : Bool := false
  overrides : Overrides := {}
  format : Format := .text
  /-- The files, last one first. -/
  files : List Path := []
  deriving Repr

/-! ## Values -/

/-- An unsigned 64-bit integer: digits, perhaps after a plus sign. -/
def integer? (bs : Bytes) : Option UInt64 :=
  let ds := if bs.head? == some 43 then bs.tail else bs
  if ds.isEmpty || !ds.all fun b => 48 ≤ b && b ≤ 57 then none
  else
    let n := ds.foldl (fun n b => n * 10 + (b.toNat - 48)) 0
    if n < UInt64.size then some (UInt64.ofNat n) else none

/-- A path: anything but the empty one. -/
def path? (bs : Bytes) : Option Path := if bs.isEmpty then none else some bs

/-- A format by its name. -/
def format? (bs : Bytes) : Option Format :=
  if bs = Bytes.ofString "text" then some .text
  else if bs = Bytes.ofString "json" then some .json
  else none

/-- The draft with the value of an option, if the value is right for it. -/
def Draft.withValue? (d : Draft) (name : Name) (v : Bytes) : Option Draft :=
  let o := d.overrides
  match name with
  | .settings => (path? v).map fun p => { d with settings := some p }
  | .linter => (path? v).map fun p => { d with overrides := { o with linter := some p } }
  | .linterConfig =>
    (path? v).map fun p => { d with overrides := { o with linterConfig := some p } }
  | .rulesDir => (path? v).map fun p => { d with overrides := { o with rulesDir := some p } }
  | .timeout => ((integer? v).filter (· != 0)).map fun n =>
      { d with overrides := { o with timeout := some n } }
  | .launcher => (Utf8.decode? v).map fun s => { d with overrides := { o with launcher := some s } }
  | .maxCommandLength =>
    (integer? v).map fun n => { d with overrides := { o with maxCommandLength := some n } }
  | .jobs => (integer? v).map fun n => { d with overrides := { o with jobs := some n } }
  | .format => (format? v).map fun f => { d with format := f }
  | .verbose | .help | .version | .noLauncher => none

/-- The draft with an option that takes no value. -/
def Draft.withFlag (d : Draft) : Name → Draft
  | .verbose => { d with verbose := true }
  | .noLauncher => { d with overrides := { d.overrides with noLauncher := true } }
  | _ => d

/-- Sets an option to a value. An option must not be given twice. -/
def Draft.setValue (d : Draft) (name : Name) (v : Bytes) : Except Stop Draft :=
  if d.given.contains name then .error .usage
  else match d.withValue? name v with
    | some d => .ok { d with given := name :: d.given }
    | none => .error .usage

/-- Sets an option that takes no value. A request for information ends the reading. -/
def Draft.setFlag (d : Draft) (name : Name) : Except Stop Draft :=
  match name with
  | .help => .error .help
  | .version => .error .version
  | _ =>
    if d.given.contains name then .error .usage
    else .ok { d.withFlag name with given := name :: d.given }

/-! ## One argument -/

/-- The byte of the dash. -/
def dash : UInt8 := 45
/-- The byte of the equals sign. -/
def equals : UInt8 := 61

/-- What an argument leaves behind: the draft, and an option that waits for its value. -/
structure Step where
  draft : Draft
  waiting : Option Name := none

/-- Reads a long option, without its dashes. -/
def longOption (d : Draft) (body : Bytes) : Except Stop Step :=
  let key := body.takeWhile (· != equals)
  let value := (body.drop key.length).drop 1
  let attached := key.length < body.length
  match (optionsOf d.action).find? fun s => Bytes.ofString s.long = key with
  | none => .error .usage
  | some spec =>
    if spec.hasValue then
      if attached then (d.setValue spec.name value).map (⟨·, none⟩)
      else .ok ⟨d, some spec.name⟩
    else if attached then .error .usage
    else (d.setFlag spec.name).map (⟨·, none⟩)

/-- Reads short options, without their dash. -/
def shortOptions (d : Draft) : Bytes → Except Stop Step
  | [] => .ok ⟨d, none⟩
  | b :: bs =>
    match (optionsOf d.action).find? fun s => s.short.any fun c => c.toNat = b.toNat with
    | none => .error .usage
    | some spec =>
      if spec.hasValue then
        match bs with
        | [] => .ok ⟨d, some spec.name⟩
        | v :: vs => (d.setValue spec.name (if v = equals then vs else v :: vs)).map (⟨·, none⟩)
      else
        match d.setFlag spec.name with
        | .error e => .error e
        | .ok d => shortOptions d bs

/-- Reads an argument that is no option: before the command it names the command, after it a
file. -/
def operand (d : Draft) (arg : Bytes) : Except Stop Draft :=
  match d.action with
  | none =>
    if arg = Bytes.ofString "run" then .ok { d with action := some .run, given := [] }
    else if arg = Bytes.ofString "plan" then .ok { d with action := some .plan, given := [] }
    else .error .usage
  | some _ =>
    match path? arg with
    | some p => .ok { d with files := p :: d.files }
    | none => .error .usage

/-- Reads the files after two dashes. -/
def operands (d : Draft) : List Bytes → Except Stop Draft
  | [] => .ok d
  | arg :: args =>
    if d.action.isNone then .error .usage
    else match operand d arg with
      | .error e => .error e
      | .ok d => operands d args

/-- The argument is written like an option. -/
def isOption (arg : Bytes) : Bool := arg.head? == some dash && arg != [dash]

/-! ## All arguments -/

/-- The command that asks for help. -/
def helpCommand : Bytes := Bytes.ofString "help"

/-- What comes of the command that asks for help, by what follows it: at most one command. -/
def helpOn (args : List Bytes) : Stop :=
  if args.length ≤ 1 ∧ args.all fun a =>
      a = helpCommand ∨ a = Bytes.ofString "run" ∨ a = Bytes.ofString "plan"
  then .help else .usage

/-- Reads the arguments from left to right; `waiting` is an option whose value comes next. -/
def read (d : Draft) (waiting : Option Name) : List Bytes → Except Stop Draft
  | [] => if waiting.isSome then .error .usage else .ok d
  | arg :: args =>
    match waiting with
    | some name =>
      if isOption arg then .error .usage
      else match d.setValue name arg with
        | .error e => .error e
        | .ok d => read d none args
    | none =>
      if arg = [dash, dash] then operands d args
      else if isOption arg then
        match (if arg.take 2 = [dash, dash] then longOption d (arg.drop 2)
          else shortOptions d (arg.drop 1)) with
        | .error e => .error e
        | .ok step => read step.draft step.waiting args
      else if d.action.isNone ∧ arg = helpCommand then .error (helpOn args)
      else match operand d arg with
        | .error e => .error e
        | .ok d => read d none args

/-- The request of a draft, if it names a command and does not contradict itself. -/
def Draft.request (d : Draft) : Except Stop Request :=
  match d.action with
  | none => .error .usage
  | some action =>
    if d.overrides.noLauncher && d.overrides.launcher.isSome then .error .usage
    else .ok
      { action := action
        settings := d.settings
        verbose := d.verbose
        overrides := d.overrides
        format := d.format
        files := d.files.reverse }

/-- The request that the arguments make. -/
def parse (args : List Bytes) : Except Stop Request :=
  match read {} none args with
  | .error e => .error e
  | .ok d => d.request

end LintDispatch.Arguments
