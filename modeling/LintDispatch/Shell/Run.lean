import LintDispatch.Shell.Execute
import LintDispatch.Shell.Redirect
import LintDispatch.Shell.Resolve

/-!
# Carrying out commands
Commands are carried out one after the other, some of them in processes of their own. Every command
ends with a status. Between commands the shell looks after signals for which there are traps. All
functions take fuel, which bounds how deeply they may call each other; a shell that runs out of it
waits for ever.
-/

namespace LintDispatch.Shell

open LintDispatch.Machine LintDispatch.Utility

/-- Where a command stands. -/
structure Position where
  /-- Its status is looked at, so its failure does not end the shell. -/
  tested : Bool := false
  /-- Nothing comes after it in this process. -/
  last : Bool := false
  deriving DecidableEq, Repr, Inhabited

/-- The position of something inside, after which more comes. -/
def Position.within (p : Position) : Position := { p with last := false }

/-- The position of something whose status is looked at. -/
def looked : Position := { tested := true }

/-! ## Passing commands by -/

/-- Commands are passed by. -/
def isSkipping : Act Bool := return (← get).skipping.isSome

/-- What a loop does when commands are passed by. -/
inductive Passing where
  /-- They are not. -/
  | on
  | nextRound
  | out
  deriving DecidableEq, Repr, Inhabited

/-- What passing by so many loops means for the innermost one. -/
def passingOne (levels : Nat) (skipping : Nat → Skipping) (last : Passing) : Act Passing := do
  modify fun st => { st with skipping := if levels ≤ 1 then none else some (skipping (levels - 1)) }
  return if levels ≤ 1 then last else .out

/-- What a loop does next. -/
def passing : Act Passing := do
  match (← get).skipping with
  | none => return .on
  | some (.leave k) => passingOne k .leave .out
  | some (.again k) => passingOne k .again .nextRound
  | some (.back _) => return .out

/-- Goes on after a function or a file. -/
def endSkippingBack : Act Unit :=
  modify fun st => { st with skipping := if st.skipping matches some (.back _) then none else
    st.skipping }

/-! ## The end of a shell -/

/-- What is left to do for a shell whose usual order has been left. -/
def settle (f : Flow) : Act Unit := do
  modify fun st =>
    { st with
      status := if f == .told then st.savedStatus.getD st.status else st.status
      savedStatus := none, skipping := none, loops := 0, inPrompt := false, builtin := none }
  closeFrames 0

/-- Ends the process of a shell with its status. -/
def endShell {α : Type} : Act α := do
  let _ ← flush
  endProcess (.code ((← get).status % 256))

/-- What a new shell process has of its parent: no jobs, and no traps but for ignored signals. -/
def startChild : Act Unit := do
  let cleared := (← get).traps.filter fun t => !t.2.isEmpty
  modify fun st =>
    { st with
      jobs := [], arrived := [], output := [], traps := st.traps.filter (·.2.isEmpty) }
  cleared.forM fun t => do
    if t.1 != 0 then
      let _ : Unit ← ask (.handle t.1 .usual)

/-- Some signals have traps. -/
def State.hasTraps (st : State) : Bool := st.traps.any fun t => !t.2.isEmpty

/-! ## Descriptors of processes -/

/-- Closes a descriptor. -/
def closeDescriptor (d : Nat) : Act Unit := do
  let _ : Bool ← ask (.close d)

/-- Lets a descriptor lead where another one does, which is then closed. -/
def moveDescriptor (d target : Nat) : Act Unit := do
  if d != target then
    let _ : Bool ← ask (.lead d target)
    closeDescriptor d

/-- Prepares a process in the background: it does not hear of interruptions, and the first of several
has nothing to read. -/
def detach (first : Bool) : Act Unit := do
  let _ : Unit ← ask (.handle Signal.interrupt .ignore)
  let _ : Unit ← ask (.handle Signal.quit .ignore)
  if first then
    closeDescriptor 0
    let _ : Except HostError Nat ← ask (.openPath (Bytes.ofString "/dev/null") .read)

/-- Reads all that is written to a descriptor. -/
def readAll (d : Nat) : (rounds : Nat) → List Letters → Act Letters
  | 0, done => return done.reverse.flatten
  | rounds + 1, done => do
    let r : Except HostError Letters ← ask (.read d false Pipe.capacity)
    match r with
    | .error _ | .ok [] => return done.reverse.flatten
    | .ok s => readAll d rounds (s :: done)

/-- Starts a process that belongs to a job. -/
def startIn (job : Nat) (child : State → Task) : Act Nat := do
  let number ← fork child
  addProcess job number
  return number

/-! ## Simple commands -/

/-- How long a simple command takes at least, in microseconds. -/
def commandTime : Nat := 8

/-- Shows a command before it is carried out, if that is asked for. -/
def showCommand (prompt : Act Letters) (assigns : List (Letters × Letters)) (args : List Letters) :
    Act Unit := do
  let st ← get
  if st.has .xtrace && !st.inPrompt then
    modify fun st => { st with inPrompt := true }
    let front ← prompt
    modify fun st => { st with inPrompt := false }
    let words := assigns.map (fun a => a.1 ++ '=' :: a.2) ++ args
    sendTo st.outerError (front ++ [' '].intercalate words ++ ['\n'])

/-- The prompt in front of a shown command. -/
def shownPrompt (output : Expand.OutputOf) : Act Letters := do
  let s := (← get).valueOr "PS4" []
  if s.all fun c => c != '$' && c != '\x60' && c != '\\' then return s
  else
    let reader : Reader := { rest := s }
    match ((Reading.parts (pure none) none Reading.depth .document).run.run reader).1 with
    | .ok w => Expand.document output w
    | .error _ => return s

/-- Gives a variable a value in front of a call. -/
def assignBefore (output : Expand.OutputOf) (isLocal exported : Bool) (a : Letters × Word) :
    Act (Letters × Letters) := do
  let value ← Expand.value output a.2
  if isLocal then makeLocal true (a.1 ++ '=' :: value) else assign a.1 value exported
  return (a.1, value)

/-- One of some patterns accepts a text. -/
def patternsAccept (pattern : Word → Act (List Glyph)) (s : Letters) : List Word → Act Bool
  | [] => return false
  | w :: ws => do
    if Pattern.accepts (← pattern w) s then return true else patternsAccept pattern s ws

/-- Finds the program that is called. -/
def programOf (c : Call) (name : Letters) : Act (Option Letters) := do
  match ← locate false c.path name with
  | .program path => return some path
  | .nowhere e =>
    complain (name ++ Letters.ofText ": " ++ programFault e)
    return none
  | _ => return none

/-- Carries out a program in this process. Its name may be that of a builtin's argument. -/
def becomeProgram {α : Type} (launch : Launcher) (path name : Letters) (args : List Letters) :
    Act α := do
  let e ← takeOver launch path (← invocation name args)
  setStatus (faultStatus e)
  complain (name ++ Letters.ofText ": " ++ programFault e)
  leave .ended

/-- The task of a process for a program. -/
def programTask (launch : Launcher) (path name : Letters) (args : List Letters) : State → Task :=
  fun st =>
    (handling (becomeProgram launch path name args) fun _ => endShell : Act Unit) st
      (fun _ _ => .ended (.code 0)) fun _ _ => .ended (.code 0)

/-- Carries out a program, in this process if nothing comes after it. The answer is its status. -/
def runProgram (launch : Launcher) (p : Position) (path name : Letters) (args : List Letters) :
    Act Nat := do
  if p.last && !(← get).hasTraps then becomeProgram launch path name args
  else
    let job ← newJob
    let _ ← startIn job (programTask launch path name args)
    awaitJob job

/-! ## Texts of programs -/

/-- The fault of a text. -/
def wrongText {α : Type} (line : Nat) (text : String) : Act α := do
  modify fun st => { st with readLine := line }
  abortSyntax text

/-- One more block of the text that a descriptor leads to. -/
def moreText (source : Option Nat) (r : Reader) : Act Reader := do
  match source with
  | none => return { r with complete := true }
  | some d =>
    let block : Except HostError Letters ← ask (.read d false blockSize)
    match block with
    | .error _ | .ok [] => return { r with complete := true }
    | .ok s => return { r with rest := r.rest ++ s }

/-- Reads the next line of a text, which may come from a descriptor. -/
def readCommand (source : Option Nat) : (rounds : Nat) → Reader → Act (Reading.Line × Reader)
  | 0, r => return (.over, r)
  | rounds + 1, r => do
    let st ← get
    let start := { r with aliases := st.aliases, documents := st.documents }
    match Reading.nextLine.run.run start with
    | (.error .unfinished, _) => readCommand source rounds (← moreText source r)
    | (.error (.wrong text), after) => wrongText after.line text
    | (.ok line, after) =>
      modify fun st => { st with documents := after.documents, readLine := after.line }
      if st.has .verbose && source.isSome then
        sendTo 2 (start.rest.take (start.rest.length - after.rest.length))
      return (line, after)

/-! ## Files of commands -/

/-- The path of a file of commands. -/
def commandFile (name : Letters) : Act Letters := do
  if isPath name then return name
  else
    let fs : FileSystem ← ask .view
    match (candidates (← get).path name).find? fun p => fs.isFile (Letters.bytes p) with
    | some p => return p
    | none => abort (about name ": not found")

/-- Opens a file of commands. -/
def openCommands (path : Letters) : Act Nat := do
  let opened : Except HostError Nat ← ask (.openPath (Letters.bytes path) .read)
  match opened with
  | .error e => abort (openFault false path e)
  | .ok d =>
    let copy : Option Nat ← ask (.duplicate d firstInner true)
    closeDescriptor d
    return copy.getD d

/-! ## Commands -/

section

variable (launch : Launcher)

mutual

/-- Looks after the signals that have arrived. -/
def attend (n : Nat) : Act Unit :=
  match n with
  | 0 => stall
  | n + 1 => do
    collectArrivals
    let st ← get
    if !st.arrived.isEmpty then
      let before := st.savedStatus
      let status := before.getD st.status
      modify fun st => { st with savedStatus := some status }
      (st.arrived.eraseDups.mergeSort (· ≤ ·)).forM fun signal => do
        if !(← isSkipping) then
          let st ← get
          set { st with arrived := st.arrived.filter (· != signal) }
          match st.traps.find? (·.1 == signal) with
          | none => return
          | some (_, action) =>
            let _ ← text n {} none { rest := action } 0
            if !((← get).skipping matches some (.back false)) then setStatus status
      modify fun st => { st with savedStatus := before }

/-- Carries out a command. -/
def run (n : Nat) (p : Position) (c : Command) : Act Nat :=
  match n with
  | 0 => stall
  | n + 1 => do
    /- After the command; `checks` says that its failure may end the shell. -/
    let finish (checks : Bool) (status : Nat) : Act Nat := do
      attend n
      if checks && !p.tested && status != 0 && (← isOn .errexit) then leave .ended
      if p.last then leave .ended
      return (← get).status
    let done (checks : Bool) (status : Nat) : Act Nat := do
      setStatus status
      finish checks status
    if ← isOn .noexec then finish false 0
    else
      attend n
      match c with
      | .simple line assigns words redirects =>
        done true (← simple n p line assigns words redirects)
      | .redirected line body redirects =>
        modify fun st => { st with line := line }
        let leads ← Lead.ofRedirects (output n) redirects
        openFrame
        let fault ← redirectAll leads
        let status ← if fault != 0 then pure fault else run n p.within body
        closeFrame false
        done false status
      | .subshell line body redirects =>
        modify fun st => { st with line := line }
        done true (← subshell n p body redirects)
      | .background line body redirects =>
        modify fun st => { st with line := line }
        done true (← background n body redirects)
      | .pipe inBackground stages => done true (← pipe n p inBackground stages)
      | .sequence cs => sequence n p cs
      | .both first second =>
        let status ← run n looked first
        if status != 0 || (← isSkipping) then finish false status
        else done false (← run n p second)
      | .either first second =>
        let status ← run n looked first
        if status == 0 || (← isSkipping) then finish false status
        else done false (← run n p second)
      | .negate c =>
        let status ← run n looked c
        if ← isSkipping then done false status
        else done false (if status == 0 then 1 else 0)
      | .branch condition yes no =>
        let status ← run n looked condition
        if ← isSkipping then finish false status
        else if status == 0 then done false (← run n p yes)
        else match no with
          | some no => done false (← run n p no)
          | none => done false 0
      | .loop negated condition body =>
        modify fun st => { st with loops := st.loops + 1 }
        let status ← loop n p.within negated condition body 0
        modify fun st => { st with loops := st.loops - 1 }
        done false status
      | .each line name words body =>
        modify fun st => { st with line := line }
        let values ← Expand.allFields (output n) words
        modify fun st => { st with loops := st.loops + 1 }
        let status ← each n p.within name body 0 values
        modify fun st => { st with loops := st.loops - 1 }
        done false status
      | .choose line subject arms =>
        modify fun st => { st with line := line }
        let s ← Expand.single (output n) subject
        done false (← choose n p s arms)
      | .define name body =>
        modify fun st =>
          { st with functions := ⟨name, body⟩ :: st.functions.filter (·.name != name) }
        done false 0

/-- Carries out commands one after the other. -/
def sequence (n : Nat) (p : Position) (cs : List Command) : Act Nat :=
  match n with
  | 0 => stall
  | n + 1 =>
    match cs with
    | [] => return (← get).status
    | [c] => run n p c
    | c :: cs => do
      let status ← run n p.within c
      if ← isSkipping then
        if p.last then leave .ended
        return status
      else sequence n p cs

/-- Repeats a command while a condition holds. -/
def loop (n : Nat) (p : Position) (negated : Bool) (condition body : Command) (status : Nat) :
    Act Nat :=
  match n with
  | 0 => stall
  | n + 1 => do
    let i ← run n looked condition
    let status := if (← get).skipping matches some (.back false) then i else status
    match ← passing with
    | .out => return status
    | .nextRound => loop n p negated condition body status
    | .on =>
      if (i == 0) == negated then return status
      else
        let status ← run n p body
        match ← passing with
        | .out => return status
        | _ => loop n p negated condition body status

/-- Repeats a command for each of some values. -/
def each (n : Nat) (p : Position) (name : Letters) (body : Command) (status : Nat)
    (values : List Letters) : Act Nat :=
  match n with
  | 0 => stall
  | n + 1 =>
    match values with
    | [] => return status
    | v :: values => do
      assign name v
      let status ← run n p body
      match ← passing with
      | .out => return status
      | _ => each n p name body status values

/-- Carries out the first arm that a text matches. -/
def choose (n : Nat) (p : Position) (s : Letters) (arms : List (List Word × Option Command)) :
    Act Nat :=
  match n with
  | 0 => stall
  | n + 1 =>
    match arms with
    | [] => return 0
    | (patterns, body) :: arms => do
      if ← isSkipping then return 0
      else if ← patternsAccept (Expand.pattern (output n)) s patterns then
        match body with
        | some c => run n p c
        | none => return 0
      else choose n p s arms

/-- Carries out a command in a shell of its own. -/
def subshell (n : Nat) (p : Position) (body : Command) (redirects : List Redirect) : Act Nat :=
  match n with
  | 0 => stall
  | n + 1 => do
    let leads ← Lead.ofRedirects (output n) redirects
    let inside : Act Unit := do
      leads.forM fun r => redirect false r.1 r.2
      let _ ← run n { p with last := true } body
    if p.last && !(← get).hasTraps then
      inside
      return 0
    else
      let job ← newJob
      let _ ← startIn job (fun st => shellTask n (startChild *> inside) st)
      awaitJob job

/-- Starts a command that nobody waits for. -/
def background (n : Nat) (body : Command) (redirects : List Redirect) : Act Nat :=
  match n with
  | 0 => stall
  | n + 1 => do
    let leads ← Lead.ofRedirects (output n) redirects
    let job ← newJob
    let number ← startIn job (fun st => shellTask n (do
      startChild
      detach true
      leads.forM fun r => redirect false r.1 r.2
      let _ ← run n { last := true } body) st)
    modify fun st => { st with lastBackground := some number }
    return 0

/-- Carries out commands that are connected by pipes. -/
def pipe (n : Nat) (p : Position) (inBackground : Bool) (cs : List Command) : Act Nat :=
  match n with
  | 0 => stall
  | n + 1 => do
    let job ← newJob
    stages n p inBackground job none cs
    if inBackground then return 0 else awaitJob job

/-- Starts the commands of a pipeline; the first one reads from `input`. -/
def stages (n : Nat) (p : Position) (inBackground : Bool) (job : Nat) (input : Option Nat)
    (cs : List Command) : Act Unit :=
  match n with
  | 0 => stall
  | n + 1 =>
    match cs with
    | [] => return
    | c :: cs => do
      let ends : Option (Nat × Nat) ← if cs.isEmpty then pure none
        else do pure (some (← ask .pipe))
      let number ← startIn job (fun st => shellTask n (do
        startChild
        if inBackground then detach input.isNone
        match ends with
        | some (reading, _) => closeDescriptor reading
        | none => pure ()
        match input with
        | some d => moveDescriptor d 0
        | none => pure ()
        match ends with
        | some (_, writing) => moveDescriptor writing 1
        | none => pure ()
        let _ ← run n { p with last := true } c) st)
      if inBackground then modify fun st => { st with lastBackground := some number }
      match input with
      | some d => closeDescriptor d
      | none => pure ()
      match ends with
      | some (_, writing) => closeDescriptor writing
      | none => pure ()
      stages n p inBackground job (ends.map (·.1)) cs

/-- What a command writes. -/
def output (n : Nat) (c : Command) : Act Letters :=
  match n with
  | 0 => stall
  | n + 1 => do
    let (reading, writing) : Nat × Nat ← ask .pipe
    let job ← newJob
    let _ ← startIn job (fun st => shellTask n (do
      startChild
      closeDescriptor reading
      moveDescriptor writing 1
      let _ ← run n { last := true } c) st)
    closeDescriptor writing
    let s ← readAll reading Job.rounds []
    closeDescriptor reading
    let status ← awaitJob job
    modify fun st => { st with outputStatus := status }
    return s

/-- Carries out a simple command. -/
def simple (n : Nat) (p : Position) (line : Nat) (assigns : List (Letters × Word))
    (words : List Word) (redirects : List Redirect) : Act Nat :=
  match n with
  | 0 => stall
  | n + 1 => do
    let _ : Unit ← ask (.pass commandTime)
    modify fun st => { st with line := line, outputStatus := 0 }
    let call ← callOf (output n) words
    let args ← match call with
      | some c => c.expand (output n)
      | none => pure []
    let start := (call.map (·.start)).getD 0
    let name := args.getD start []
    let replaces := (call.map (·.special)).join.isSome && name == Letters.ofText "exec"
    let depth := (← get).locals.length
    let frames := (← get).redirected.length
    let isLocal := (call.map (·.isScoped)).getD false
    if isLocal then openScope
    let leads ← Lead.ofRedirects (output n) redirects
    openFrame
    let fault ← redirectAll leads
    let finish (status : Nat) : Act Nat := do
      closeFrame replaces
      closeFrames frames
      closeScopes depth
      return status
    if fault != 0 then
      setStatus fault
      if (call.map (·.special)).join == some true then leave .failed
      finish fault
    else
      let exported := replaces && start + 1 < args.length
      let values ← assigns.mapM (assignBefore (output n) isLocal exported)
      showCommand (shownPrompt (output n)) values args
      let operands := args.drop (start + 1)
      match call with
      | none => finish (← get).outputStatus
      | some c =>
        match c.callee with
        | .program =>
          match ← programOf c name with
          | none =>
            setStatus 127
            finish 127
          | some path => finish (← runProgram launch p path name operands)
        | .function f => finish (← callFunction n p f operands)
        | .builtin => finish (← callBuiltin n p (c.special.getD false) name operands)

/-- Calls a function. -/
def callFunction (n : Nat) (p : Position) (f : Function) (args : List Letters) : Act Nat :=
  match n with
  | 0 => stall
  | n + 1 => do
    let before ← get
    if 1000 ≤ before.calls then
      abort (Letters.ofText "Maximum function recursion depth (1000) reached")
    modify fun st =>
      { st with
        args := args, nextOption := 1, optionOffset := none, loops := 0, calls := st.calls + 1 }
    let restore : Act Unit := do
      modify fun st =>
        { st with
          args := before.args, nextOption := before.nextOption, loops := before.loops
          optionOffset := before.optionOffset, calls := before.calls }
      endSkippingBack
    handling (do let _ ← run n { tested := p.tested } f.body) fun flow => do
      restore
      leave flow
    restore
    return (← get).status

/-- Calls a builtin. The failure of one that is not special does not end the shell. -/
def callBuiltin (n : Nat) (p : Position) (special : Bool) (name : Letters)
    (args : List Letters) : Act Nat :=
  match n with
  | 0 => stall
  | n + 1 => do
    let outer := (← get).builtin
    modify fun st => { st with builtin := some name }
    let body : Act Nat :=
      match String.ofList name, args with
      | "eval", args => evaluate n p args
      | ".", args => source n args
      | "exec", command :: args => execute launch command args
      | "exec", [] => return 0
      | _, args => ((builtin? name).getD (Builtin.constant 127)) args
    let status ← handling (do
        let status ← body
        let fine ← flush
        if !fine then complain (name ++ Letters.ofText ": I/O error")
        setStatus (if fine then status else status ||| 1)
        return (← get).status) fun flow => do
      let _ ← flush
      modify fun st => { st with builtin := outer }
      if flow == .failed && !special then return (← get).status else leave flow
    modify fun st => { st with builtin := outer }
    return status

/-- Carries out a text that is made of arguments. -/
def evaluate (n : Nat) (p : Position) (args : List Letters) : Act Nat :=
  match n with
  | 0 => stall
  | n + 1 =>
    if args.isEmpty then return 0
    else text n { tested := p.tested } none { rest := [' '].intercalate args } 0

/-- Carries out the commands in a file. -/
def source (n : Nat) (args : List Letters) : Act Nat :=
  match n with
  | 0 => stall
  | n + 1 => do
    match ← withoutOptions args with
    | [] => return 0
    | name :: _ =>
      let path ← commandFile name
      let d ← openCommands path
      modify fun st => { st with builtin := some path }
      let status ← text n {} (some d) { complete := false } 0
      endSkippingBack
      closeDescriptor d
      return status

/-- Carries out the commands of a text, which may come from a descriptor. The answer is the status of
the last one. -/
def text (n : Nat) (p : Position) (source : Option Nat) (r : Reader) (status : Nat) : Act Nat :=
  match n with
  | 0 => stall
  | n + 1 => do
    match ← readCommand source Job.rounds r with
    | (.over, _) => return status
    | (.command none _, r) =>
      attend n
      if ← isSkipping then return status else text n p source r status
    | (.command (some c) _, r) =>
      let status ← run n p c
      if ← isSkipping then return status else text n p source r status

/-- The task of a shell that does something: in the end it carries out its last trap. -/
def shellTask (n : Nat) (a : Act Unit) (st : State) : Task :=
  match n with
  | 0 => .ask .never fun _ => .ended (.code 0)
  | n + 1 =>
    (do
      handling a settle
      let st ← get
      match st.traps.find? (·.1 == 0) with
      | none => endShell
      | some (_, action) =>
        set { st with
          traps := st.traps.filter (·.1 != 0), skipping := none, savedStatus := some st.status }
        handling (do
          let _ ← text n {} none { rest := action } 0
          settle .told) settle
        endShell : Act Unit) st (fun _ _ => .ended (.code 0)) fun _ _ => .ended (.code 0)

end

end

end LintDispatch.Shell
