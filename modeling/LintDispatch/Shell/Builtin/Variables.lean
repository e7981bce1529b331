import LintDispatch.Shell.Builtin.Basic
import LintDispatch.Shell.Condition

/-!
# Builtins for variables
Variables are marked, made local, removed and listed; arguments are replaced and shifted; settings are
switched on and off.
-/

namespace LintDispatch.Shell

open LintDispatch.Machine

/-! ## Lists -/

/-- One text comes before another one, or is the same. -/
def inOrder (a b : Letters) : Bool := !Condition.precedes b a

/-- The line that sets a variable. -/
def variableLine (lead : Letters) (v : Variable) : Letters :=
  lead ++ v.name ++ ((v.value.map fun s => '=' :: quoted s).getD [])

/-- Lists variables by name. -/
def listVariables (lead : Letters) (p : Variable → Bool) : Act Unit := do
  let vs := ((← get).vars.filter p).mergeSort fun v w => inOrder v.name w.name
  vs.forM fun v => sayLine (variableLine lead v)

/-- The name in an assignment, and the value if there is one. -/
def nameAndValue (a : Letters) : Letters × Option Letters :=
  match a.span (· != '=') with
  | (name, _ :: value) => (name, some value)
  | (name, []) => (name, none)

/-! ## Marks -/

/-- Marks a variable, which may get a value first. -/
def markVariable (mark : Variable → Variable) (a : Letters) : Act Unit := do
  let (name, value) := nameAndValue a
  match value with
  | some value => assign name value
  | none =>
    if !Letters.isName name then requireVariable name
    if ((← get).var? name).isNone then
      modify fun st => { st with vars := putVariable ⟨name, none, false, false⟩ st.vars }
  modify fun st =>
    { st with vars := st.vars.map fun v => if v.name == name then mark v else v }

/-- Marks variables, or lists those that are marked. -/
def marking (name : String) (isMarked : Variable → Bool) (mark : Variable → Variable) : Builtin :=
  fun args => do
    let (os, args) ← optionsOf "p" args
    if !os.isEmpty || args.isEmpty then listVariables (Letters.ofText (name ++ " ")) isMarked
    else args.forM (markVariable mark)
    return 0

/-- Tells other programs about variables. -/
def exportBuiltin : Builtin := marking "export" (·.exported) ({ · with exported := true })

/-- Protects variables. -/
def readonlyBuiltin : Builtin := marking "readonly" (·.constant) ({ · with constant := true })

/-- Makes a variable local, with the value that it has or another one. -/
def makeLocal (exported : Bool) (a : Letters) : Act Unit := do
  if a == ['-'] then rememberSettings
  else
    let (name, value) := nameAndValue a
    rememberVariable name
    match value with
    | some value =>
      if ((← get).var? name).any (·.constant) then abort (about name ": is read only")
      modify fun st => st.withValue name value exported
    | none =>
      if !Letters.isName name then requireVariable name

/-- Makes variables local. -/
def localBuiltin : Builtin := fun args => do
  if (← get).locals.isEmpty then abort (Letters.ofText "not in a function")
  args.forM (makeLocal false)
  return 0

/-- Removes variables or functions. -/
def unset : Builtin := fun args => do
  let (os, args) ← optionsOf "vf" args
  if lastOption os == some 'f' then
    modify fun st =>
      { st with functions := st.functions.filter fun f => !args.contains f.name }
  else args.forM unsetVariable
  return 0

/-! ## Settings and arguments -/

/-- Switches a setting. -/
def switch (on : Bool) (s : Setting) : Act Unit :=
  modify fun st =>
    let others := st.settings.filter (· != s)
    { st with settings := if on then s :: others else others }

/-- Switches the setting of a letter. One way of editing excludes the other one. -/
def switchLetter (on : Bool) (c : Char) : Act Unit := do
  match Setting.ofLetter? c with
  | none => abort (Letters.ofText "Illegal option -" ++ [c])
  | some s =>
    switch on s
    if on && s == .vi then switch false .emacs
    if on && s == .emacs then switch false .vi

/-- A table of all settings, or commands that bring them about. To a shell that is `starting` they
all seem to be on. -/
def listSettings (starting asTable : Bool) : Act Unit := do
  let st ← get
  let text := Letters.ofText
  if asTable then sayLine (text "Current option settings")
  Setting.all.forM fun s => do
    let name := text s.2.1
    let on := starting || st.has s.1
    sayLine (if asTable then
        name ++ List.replicate (16 - name.length) ' ' ++ text (if on then "on" else "off")
      else text (if on then "set -o " else "set +o ") ++ name)

/-- Switches the setting of a name; without a name settings are listed. -/
def switchName (starting on : Bool) (name : Option Letters) : Act Unit := do
  match name with
  | none => listSettings starting on
  | some name =>
    match Setting.ofName? name with
    | none => abort (Letters.ofText "Illegal option -o " ++ name)
    | some s => switch on s

/-- What settings in front of some arguments ask for besides. -/
structure Settings where
  /-- The first argument is a command. -/
  command : Bool := false
  /-- There are arguments, be it none at all. -/
  given : Bool := false
  args : List Letters := []
  deriving Inhabited

/-- Switches the settings of letters; `after` are the arguments that follow. The answer is what is
left of them, and whether a command is among them. -/
def switchLetters (starting on : Bool) : Letters → List Letters → Act (Bool × List Letters)
  | [], after => return (false, after)
  | c :: s, after => do
    if starting && c == 'c' then
      let (_, after) ← switchLetters starting on s after
      return (true, after)
    else if starting && c == 'l' then switchLetters starting on s after
    else if c == 'o' then
      switchName starting on after.head?
      switchLetters starting on s after.tail
    else
      switchLetter on c
      switchLetters starting on s after

/-- Switches the settings in front of some arguments. A shell that is `starting` can be given a
command. -/
def switchAll (starting : Bool) : (count : Nat) → List Letters → Act Settings
  | 0, args => return { args := args, given := !args.isEmpty }
  | _ + 1, ['-'] :: args => do
    if !starting then
      switch false .xtrace
      switch false .verbose
    return { args := args, given := !args.isEmpty }
  | _ + 1, ['-', '-'] :: args => return { args := args, given := true }
  | count + 1, a :: args => do
    match a with
    | '-' :: s =>
      let (command, args) ← switchLetters starting true s args
      let r ← switchAll starting count args
      return { r with command := command || r.command }
    | '+' :: s =>
      let (command, args) ← switchLetters starting false s args
      let r ← switchAll starting count args
      return { r with command := command || r.command }
    | _ => return { args := a :: args, given := true }
  | _ + 1, [] => return {}

/-- There is no terminal, so jobs cannot be controlled. -/
def requireTerminal : Act Unit := do
  if ← isOn .monitor then
    complain (Letters.ofText "can't access tty; job control turned off")
    switch false .monitor

/-- Replaces the arguments. -/
def setArguments (args : List Letters) : Act Unit :=
  modify fun st => { st with args := args, nextOption := 1, optionOffset := none }

/-- Switches settings and replaces the arguments, or lists all variables. -/
def setBuiltin : Builtin := fun args => do
  if args.isEmpty then listVariables [] (·.value.isSome)
  else
    let s ← switchAll false args.length args
    requireTerminal
    if s.given then setArguments s.args
  return 0

/-- Drops arguments. -/
def shift : Builtin := fun args => do
  let n ← match args with
    | a :: _ => numberOf a
    | [] => pure 1
  let all := (← get).args
  if all.length < n then abort (Letters.ofText "can't shift that many")
  setArguments (all.drop n)
  return 0

/-! ## Options -/

/-- What `getopts` finds. -/
structure NextOption where
  /-- The letter, or what stands for it if something is wrong. -/
  letter : Char := '?'
  /-- The value of the option; it may be removed. -/
  value : Option (Option Letters) := none
  complaint : Letters := []
  /-- The next word, and how much of the one before it is done. -/
  next : Nat
  offset : Option Nat := none
  finished : Bool := false
  deriving Inhabited

/-- What comes of a letter; `rest` follows it in the word before the word number `next`. -/
def optionFrom (spec : List Char) (words : List Letters) (next : Nat) (c : Char) (rest : Letters) :
    NextOption :=
  let quiet := spec.head? == some ':'
  let length := ((words[next - 2]?).map List.length).getD 0
  let offset := some (length - rest.length)
  match optionArity? spec c with
  | none =>
    if quiet then { value := some (some [c]), next := next, offset := offset }
    else
      { value := some none, next := next, offset := offset
        complaint := Letters.ofText "Illegal option -" ++ [c, '\n'] }
  | some false => { letter := c, value := some (some []), next := next, offset := offset }
  | some true =>
    if !rest.isEmpty then { letter := c, value := some (some rest), next := next }
    else match words[next - 1]? with
      | some a => { letter := c, value := some (some a), next := next + 1 }
      | none =>
        if quiet then { letter := ':', value := some (some [c]), next := next, offset := offset }
        else
          { value := some none, next := next, offset := offset
            complaint := Letters.ofText "No arg for -" ++ c :: Letters.ofText " option\n" }

/-- The next option in some words. -/
def nextOption (spec : List Char) (words : List Letters) (next : Nat) (offset : Option Nat) :
    NextOption :=
  let open' := match offset with
    | some k => if next ≤ 1 then [] else ((words[next - 2]?).map (·.drop k)).getD []
    | none => []
  match open' with
  | c :: rest => optionFrom spec words next c rest
  | [] =>
    match words[next - 1]? with
    | some ['-', '-'] => { next := next + 1, finished := true }
    | some ('-' :: c :: rest) => optionFrom spec words (next + 1) c rest
    | _ => { next := next, finished := true }

/-- Reads options out of arguments, one at a time. -/
def getopts : Builtin := fun args => do
  match args with
  | spec :: name :: more =>
    let st ← get
    let words := if more.isEmpty then st.args else more
    let again := words.length + 1 < st.nextOption
    let o := if again then nextOption spec words 1 none
      else nextOption spec words st.nextOption st.optionOffset
    if !o.complaint.isEmpty then sendTo 2 o.complaint
    match o.value with
    | some (some v) => assign (Letters.ofText "OPTARG") v
    | some none => unsetVariable (Letters.ofText "OPTARG")
    | none => pure ()
    assign (Letters.ofText "OPTIND") (Letters.ofNat o.next)
    assign name [o.letter]
    modify fun st => { st with nextOption := o.next, optionOffset := o.offset }
    return if o.finished then 1 else 0
  | _ => abort (Letters.ofText "Usage: getopts optstring var [arg...]")

/-! ## Aliases -/

/-- The number by which aliases are ordered. -/
def aliasOrder (name : Letters) : Nat :=
  (16 * ((name.head?.map Char.toNat).getD 0) + name.foldl (fun n c => n + c.toNat) 0) % 39

/-- The line that brings an alias about. -/
def aliasLine (a : Letters × Letters) : Letters := a.1 ++ '=' :: quoted a.2

/-- Sets an alias, or shows it. The answer says whether there was one. -/
def aliasWord (a : Letters) : Act Bool := do
  let (name, rest) := match a with
    | [] => ([], [])
    | c :: s => let (t, rest) := s.span (· != '='); (c :: t, rest)
  match rest with
  | _ :: value =>
    modify fun st =>
      let aliases := st.aliases
      { st with
        aliases := if aliases.any (·.1 == name) then
            aliases.map fun b => if b.1 == name then (name, value) else b
          else aliases ++ [(name, value)] }
    return true
  | [] =>
    match (← get).aliases.find? (·.1 == name) with
    | some b =>
      sayLine (aliasLine b)
      return true
    | none =>
      sendTo 2 (Letters.ofText "alias: " ++ name ++ Letters.ofText " not found\n")
      return false

/-- Sets and shows aliases. -/
def aliasBuiltin : Builtin := fun args => do
  if args.isEmpty then
    let all := (← get).aliases.mergeSort fun a b => aliasOrder a.1 ≤ aliasOrder b.1
    all.forM fun a => sayLine (aliasLine a)
    return 0
  else
    let found ← args.mapM aliasWord
    return if found.all id then 0 else 1

/-- Removes an alias. The answer says whether there was one. -/
def dropAlias (name : Letters) : Act Bool := do
  if (← get).aliases.any (·.1 == name) then
    modify fun st => { st with aliases := st.aliases.filter (·.1 != name) }
    return true
  else
    sendTo 2 (Letters.ofText "unalias: " ++ name ++ Letters.ofText " not found\n")
    return false

/-- Removes aliases. -/
def unalias : Builtin := fun args => do
  let (os, args) ← optionsOf "a" args
  if !os.isEmpty then
    modify fun st => { st with aliases := [] }
    return 0
  else
    let found ← args.mapM dropAlias
    return if found.all id then 0 else 1

/-! ## Reading -/

/-- A line that is being read: stretches that are complete, and the current one, all in reverse. -/
structure LineRead where
  stretches : List Stretch := []
  current : Letters := []
  /-- The last letter was a backslash that protects the next one. -/
  escaped : Bool := false
  finished : Bool := false
  deriving Inhabited

namespace LineRead

/-- Ends the current stretch. -/
def cut (l : LineRead) : LineRead :=
  { l with
    stretches := ⟨.atSeparators, l.current.reverse.map fun c => .char ⟨c, false⟩⟩ :: l.stretches
    current := [] }

/-- Takes a letter. -/
def add (raw : Bool) (l : LineRead) (c : Char) : LineRead :=
  if l.finished || c.toNat == 0 then l
  else if l.escaped then
    let l := { l.cut with escaped := false }
    if c == '\n' then l
    else { l with stretches := ⟨.nowhere, [.char ⟨c, false⟩]⟩ :: l.stretches }
  else if !raw && c == '\\' then { l with escaped := true }
  else if c == '\n' then { l with finished := true }
  else { l with current := c :: l.current }

end LineRead

/-- Reads a line. The answer says also whether it had an end. -/
def readLine (raw : Bool) : (rounds : Nat) → LineRead → Act (List Stretch × Bool)
  | 0, l => return (l.cut.stretches.reverse, false)
  | rounds + 1, l => do
    let r : Except HostError Letters ← ask (.read 0 true Pipe.capacity)
    match r with
    | .error _ | .ok [] => return (l.cut.stretches.reverse, false)
    | .ok s =>
      let l := s.foldl (LineRead.add raw) l
      if l.finished then return (l.cut.stretches.reverse, true) else readLine raw rounds l

/-- Gives variables their values; those without one become empty. -/
def assignAll : List Letters → List Letters → Act Unit
  | [], _ => return
  | name :: names, values => do
    assign name (values.headD [])
    assignAll names values.tail

/-- Reads a line and splits it into the values of variables. -/
def readBuiltin : Builtin := fun args => do
  let (os, names) ← optionsOf "p:r" args
  if names.isEmpty then abort (Letters.ofText "arg count")
  let (line, ended) ← readLine (os.any (·.1 == 'r')) Job.rounds {}
  let fields := fieldsOf (← get).separators (some names.length) line
  assignAll names (fields.map lettersOf)
  return if ended then 0 else 1

end LintDispatch.Shell
