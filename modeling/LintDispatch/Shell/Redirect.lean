import LintDispatch.Shell.Expand

/-!
# Redirections
A redirection lets a descriptor lead elsewhere while a command is carried out. Where it led before is
remembered in a frame, one for each command, so that this can be undone.
-/

namespace LintDispatch.Shell

open LintDispatch.Machine

/-- What a file is opened for. -/
inductive Opening where
  | read
  | write
  | overwrite
  | append
  | update
  deriving DecidableEq, Repr, Inhabited

/-- The target of a redirection after expansion. -/
inductive Lead where
  | path (how : Opening) (path : Letters)
  | descriptor (d : Nat)
  | nowhere
  | text (s : Letters)
  deriving DecidableEq, Repr, Inhabited

namespace Lead

/-- What `exec` leaves of the words for a descriptor. -/
def ofWord (s : Letters) : Act Lead := do
  match s with
  | ['-'] => return .nowhere
  | [c] => if c.isDigit then return .descriptor (Letters.digit c) else abortSyntax "Bad fd number"
  | _ => abortSyntax "Bad fd number"

/-- Expands the target of a redirection. -/
def ofTarget (output : Expand.OutputOf) : Target → Act Lead
  | .read w => return .path .read (← Expand.single output w)
  | .write w => return .path .write (← Expand.single output w)
  | .overwrite w => return .path .overwrite (← Expand.single output w)
  | .append w => return .path .append (← Expand.single output w)
  | .update w => return .path .update (← Expand.single output w)
  | .duplicate w => do
    match plainLetters? w with
    | some s => ofWord s
    | none => ofWord ((← Expand.fields output w).headD [])
  | .document k => do
    let w := ((← get).documents[k]?).getD []
    return .text (← Expand.document output w)

/-- Expands the targets of redirections. -/
def ofRedirects (output : Expand.OutputOf) (rs : List Redirect) : Act (List (Nat × Lead)) :=
  rs.mapM fun
    | .mk d t => do return (d, ← ofTarget output t)

end Lead

/-! ## Opening -/

/-- Why a file cannot be opened. -/
def openFault (creating : Bool) (path : Letters) (e : HostError) : Letters :=
  let reason := match e with
    | .missing | .notDirectory => if creating then "Directory nonexistent" else "No such file"
    | e => e.reason
  Letters.ofText (if creating then "cannot create " else "cannot open ") ++ path ++
    Letters.ofText (": " ++ reason)

/-- The way to write to a file if files are protected: none if the file is there. -/
def protectedAccess (path : Letters) : Act Access := do
  let fs : FileSystem ← ask .view
  match fs.lookup (Letters.bytes path) with
  | .ok (.file _) => abort (openFault true path .alreadyThere)
  | .ok _ => return .write
  | .error _ => return .create

/-- How a file is opened. -/
def accessFor (how : Opening) (path : Letters) : Act Access := do
  match how with
  | .read => return .read
  | .update => return .update
  | .append => return .append
  | .overwrite => return .write
  | .write => if ← isOn .noclobber then protectedAccess path else return .write

/-- Writes a text into a pipe, and ends. -/
def writerTask (reading writing : Nat) (s : Letters) : State → Task :=
  fun st =>
    (do
      let _ : Bool ← ask (.close reading)
      sendTo writing s
      endProcess (.code 0) : Act Unit) st (fun _ _ => .ended (.code 0)) fun _ _ => .ended (.code 0)

/-- A descriptor from which a text can be read. -/
def openText (s : Letters) : Act Nat := do
  let (reading, writing) : Nat × Nat ← ask .pipe
  if s.length ≤ Pipe.atomic then sendTo writing s
  else
    let _ ← fork (writerTask reading writing s)
  let _ : Bool ← ask (.close writing)
  return reading

/-- Opens the target of a redirection. There is nothing to open for a descriptor. -/
def Lead.reach : Lead → Act (Option Nat)
  | .path how p => do
    let access ← accessFor how p
    let opened : Except HostError Nat ← ask (.openPath (Letters.bytes p) access)
    match opened with
    | .ok d => return some d
    | .error e => abort (openFault access.creates p e)
  | .text s => return some (← openText s)
  | .descriptor _ | .nowhere => return none

/-! ## Frames -/

/-- The least descriptor for the shell's own use. -/
def firstInner : Nat := 10

/-- Opens a frame for redirections. -/
def openFrame : Act Unit := modify fun st => { st with redirected := [] :: st.redirected }

/-- Remembers where a descriptor leads, unless this has been done in the current frame. If `new` is
the descriptor itself, it has led nowhere. -/
def rememberDescriptor (d : Nat) (new : Option Nat) : Act Unit := do
  match (← get).redirected with
  | [] => return
  | frame :: frames =>
    if frame.any (·.1 == d) then return
    let saved ← if new == some d then pure Saved.closed else do
      let copy : Option Nat ← ask (.duplicate d firstInner true)
      match copy with
      | none => pure Saved.closed
      | some k =>
        let _ : Bool ← ask (.close d)
        pure (Saved.copy k)
    modify fun st => { st with redirected := ((d, saved) :: frame) :: frames }

/-- Lets a descriptor lead elsewhere. -/
def leadTo (d : Nat) (lead : Lead) (new : Option Nat) : Act Unit := do
  match lead, new with
  | .nowhere, _ =>
    let _ : Bool ← ask (.close d)
  | .descriptor source, _ =>
    let fine : Bool ← ask (.lead source d)
    if !fine then abort (about (Letters.ofNat source) ": Bad file descriptor")
  | _, some k =>
    if k != d then
      let _ : Bool ← ask (.lead k d)
      let _ : Bool ← ask (.close k)
  | _, none => return

/-- Carries out a redirection, and remembers how to undo it if `undoable`. -/
def redirect (undoable : Bool) (d : Nat) (lead : Lead) : Act Unit := do
  if lead == .descriptor d then return
  let new ← lead.reach
  if undoable then rememberDescriptor d new
  leadTo d lead new

/-- Carries out redirections, and remembers how to undo them. The answer is a status. -/
def redirectAll (leads : List (Nat × Lead)) : Act Nat :=
  handling (do
    leads.forM fun r => redirect true r.1 r.2
    return 0) fun
    | .failed => return 2
    | f => leave f

/-- Undoes a redirection; if it is to last, only what was remembered is given up. -/
def restoreDescriptor (lasting : Bool) (d : Nat) (saved : Saved) : Act Unit := do
  match saved with
  | .closed =>
    if !lasting then
      let _ : Bool ← ask (.close d)
  | .copy k =>
    if !lasting then
      let _ : Bool ← ask (.lead k d)
    let _ : Bool ← ask (.close k)

/-- Closes the current frame. -/
def closeFrame (lasting : Bool) : Act Unit := do
  match (← get).redirected with
  | [] => return
  | frame :: frames =>
    frame.forM fun s => restoreDescriptor lasting s.1 s.2
    modify fun st => { st with redirected := frames }

/-- Closes frames until `depth` of them are left. -/
def closeFrames (depth : Nat) : Act Unit := do
  let extra := (← get).redirected.length - depth
  (List.range extra).forM fun _ => closeFrame false

/-- Where the error output led before the current frame. -/
def State.outerError (st : State) : Nat :=
  match st.redirected.head?.bind fun frame => frame.find? (·.1 == 2) with
  | some (_, .copy k) => k
  | _ => 2

end LintDispatch.Shell
