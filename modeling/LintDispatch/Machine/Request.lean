import LintDispatch.Machine.World

/-!
# Requests
A process acts on its world by requests, one at a time, and each kind of request has its own kind of
reply. `World.answer` says what the world replies and how it changes; as long as there is no answer
the process waits.
-/

namespace LintDispatch.Machine

/-- What a file is opened for. -/
inductive Access where
  | read
  /-- The file is created or emptied. -/
  | write
  /-- The file is created if need be, and written at its end. -/
  | append
  /-- The file is created if need be, and read and written. -/
  | update
  /-- The file is created, and must not have been there. -/
  | create
  deriving DecidableEq, Repr, Inhabited

/-- What a process wants to happen when a signal arrives. -/
inductive Handling where
  | usual
  | ignore
  | catch
  deriving DecidableEq, Repr, Inhabited

/-- What waiting for a child gives. -/
inductive Waited where
  | ended (number : Nat) (e : Exit)
  | childless
  | running
  /-- A caught signal has arrived. -/
  | interrupted
  deriving DecidableEq, Repr, Inhabited

/-- Something that a process asks its world for. -/
inductive Request where
  /-- To let time pass, in microseconds. -/
  | pass (micros : Nat)
  /-- To wait for ever. -/
  | never
  /-- To look at the files. -/
  | view
  /-- To change the files. -/
  | change (f : FileSystem → Except HostError Unit × FileSystem)
  /-- To work in another directory. -/
  | enter (path : Path)
  | openPath (path : Path) (access : Access)
  /-- To have one more descriptor, not below `least`, that leads where `d` leads. -/
  | duplicate (d least : Nat) (inner : Bool)
  /-- To let the descriptor `target` lead where `d` leads. -/
  | lead (d target : Nat)
  | close (d : Nat)
  /-- To have a descriptor to read from and one to write to what is read there. -/
  | pipe
  /-- To read some letters, or at most one line. -/
  | read (d : Nat) (line : Bool) (count : Nat)
  | write (d : Nat) (s : Letters)
  /-- To move the position of an open file. -/
  | seek (d offset : Nat)
  /-- To know the position of an open file and the size of the file. -/
  | position (d : Nat)
  /-- To know whether two descriptors lead to the same file. -/
  | sameFile (d e : Nat)
  /-- To know whether a descriptor leads to a pipe. -/
  | isPipe (d : Nat)
  /-- To wait for a child. -/
  | wait (block interruptible : Bool)
  | kill (number signal : Nat)
  | handle (signal : Nat) (how : Handling)
  /-- To know how a signal is handled. -/
  | handling (signal : Nat)
  /-- To take the caught signals that have arrived. -/
  | arrivals
  /-- To let another program take over. -/
  | takeOver
  /-- To know one's own number and that of one's parent. -/
  | numbers

namespace Request

/-- What comes back. -/
def Reply : Request → Type
  | pass _ | never | takeOver | handle _ _ => Unit
  | view => FileSystem
  | change _ | enter _ | seek _ _ | kill _ _ => Except HostError Unit
  | openPath _ _ | write _ _ => Except HostError Nat
  | duplicate _ _ _ => Option Nat
  | lead _ _ | close _ | sameFile _ _ | isPipe _ => Bool
  | pipe | numbers => Nat × Nat
  | read _ _ _ => Except HostError Letters
  | position _ => Except HostError (Nat × Nat)
  | wait _ _ => Waited
  | handling _ => Handling
  | arrivals => List Nat

/-- How long it takes to move so many letters, in microseconds. -/
def moving (count : Nat) : Nat := count / 10

/-- How long a request takes that is answered like this, in microseconds. -/
def cost : (r : Request) → r.Reply → Nat
  | pass micros, _ => micros
  | write _ s, _ => 1 + moving s.length
  | read _ _ _, (.ok s : Except HostError Letters) => 1 + moving s.length
  | takeOver, _ => 700
  | _, _ => 1

end Request

/-! ## Opening files -/

/-- The descriptor that a place in the directory for devices stands for. -/
def descriptorAt? (spot : Place) : Option Nat :=
  match spot.map Letters.ofBytes with
  | [dev, name] =>
    if dev != Letters.ofText "dev" then none
    else match String.ofList name with
      | "stdin" => some 0
      | "stdout" => some 1
      | "stderr" => some 2
      | _ => none
  | [dev, fd, n] =>
    if dev == Letters.ofText "dev" && fd == Letters.ofText "fd" then Letters.nat? n else none
  | [proc, self, fd, n] =>
    if proc == Letters.ofText "proc" && self == Letters.ofText "self" && fd == Letters.ofText "fd"
    then Letters.nat? n else none
  | _ => none

/-- An open file with a new position. -/
def openedFor (access : Access) (s : Stream) : OpenFile where
  stream := s
  readable := access == .read || access == .update
  writable := access != .read
  appends := access == .append

/-- The access may create a file. -/
def Access.creates (a : Access) : Bool := a != .read

namespace World

/-- Opens what is at a place. -/
def openAt (w : World) (p : Nat) (spot : Place) (access : Access) :
    Except HostError Nat × World :=
  let use (w : World) (s : Stream) : Except HostError Nat × World :=
    let (d, w) := w.opening p (openedFor access s)
    (.ok d, w)
  match descriptorAt? spot with
  | some d =>
    match w.openFile? p d with
    | none => (.error .missing, w)
    | some f =>
      let w := if access == .write then w.setContent f.stream [] else w
      use w f.stream
  | none =>
    match w.files.node? spot with
    | none =>
      if access.creates then use { w with files := w.files.put spot (.file []) } (.file spot)
      else (.error .missing, w)
    | some .dir => if access.creates then (.error .isDirectory, w) else use w .directory
    | some (.device .terminal) => (.error .noDevice, w)
    | some (.device d) => if access == .create then (.error .alreadyThere, w) else use w (.device d)
    | some (.file _) =>
      match access with
      | .create => (.error .alreadyThere, w)
      | .write => use { w with files := w.files.put spot (.file []) } (.file spot)
      | _ => use w (.file spot)

/-- Opens the file at a path. -/
def openPath (w : World) (p : Nat) (path : Path) (access : Access) :
    Except HostError Nat × World :=
  let w := if access == .write then w.saved else w
  let fs := w.filesOf p
  let spot := if access.creates && FileSystem.endsInSlash path then
      (fs.target path).bind fun _ => .error .isDirectory
    else fs.locate path
  match spot with
  | .error e => (.error e, w)
  | .ok spot => w.openAt p spot access

/-! ## Reading and writing -/

/-- What reading from an open file gives: nothing as long as there is nothing to read yet. -/
def readOpen (w : World) (file : Nat) (f : OpenFile) (line : Bool) (count : Nat) :
    Option (Except HostError Letters × World) :=
  if !f.readable then some (.error .badDescriptor, w)
  else
    match f.stream with
    | .file _ | .lost _ =>
      let w := w.saved
      let s := portion line count (Letters.ofBytes (((w.content f.stream).drop f.offset).take count))
      some (.ok s, w.seekTo file (f.offset + s.length))
    | .directory => some (.error .isDirectory, w)
    | .device .null => some (.ok [], w)
    | .device _ => some (.ok (List.replicate count (Char.ofNat 0)), w)
    | .outcome _ => some (.error .badDescriptor, w)
    | .pipe k =>
      let pipe := (w.pipes[k]?).getD {}
      if pipe.size == 0 then if w.hasWriter k then none else some (.ok [], w)
      else
        let s := portion line count pipe.text
        let left : Pipe := { front := pipe.text.drop s.length, size := pipe.size - s.length }
        some (.ok s, { w with pipes := w.pipes.modify k fun _ => left })

/-- What writing to an open file does: nothing as long as there is no room. The reply is how much
has been written. Whoever writes to a pipe that nobody reads is told by a signal. -/
def writeOpen (w : World) (p file : Nat) (f : OpenFile) (s : Letters) :
    Option (Except HostError Nat × World) :=
  if !f.writable then some (.error .badDescriptor, w)
  else if s.isEmpty then some (.ok 0, w)
  else
    match f.stream with
    | .file _ | .lost _ => some (.ok s.length, w.writeFile file f s)
    | .directory => some (.error .badDescriptor, w)
    | .device .full => some (.error .noSpace, w)
    | .device _ => some (.ok s.length, w)
    | .outcome k => some (.ok s.length, { w with outcomes := w.outcomes.modify k (s :: ·) })
    | .pipe k =>
      if !w.hasReader k then some (.error .brokenPipe, w.deliver p Signal.pipe)
      else
        let n := ((w.pipes[k]?).getD {}).room s
        if n == 0 then none
        else some (.ok n, { w with pipes := w.pipes.modify k (·.push (s.take n)) })

/-! ## Answers -/

/-- A new pipe, with a descriptor for each end. -/
def newPipe (w : World) (p : Nat) : (Nat × Nat) × World :=
  let k := w.pipes.size
  let w := { w with pipes := w.pipes.push {} }
  let (r, w) := w.opening p { stream := .pipe k, readable := true }
  let (d, w) := w.opening p { stream := .pipe k, writable := true }
  ((r, d), w)

/-- What waiting for a child gives: nothing as long as there is something to wait for. -/
def waiting (w : World) (p : Nat) (block interruptible : Bool) : Option (Waited × World) :=
  let x := w.process p
  match x.ended with
  | (c, e) :: rest =>
    some (.ended (numberOf c) e, w.onProcess p ({ · with ended := rest }))
  | [] =>
    if !w.hasChild p then some (.childless, w)
    else if interruptible && !x.arrived.isEmpty then some (.interrupted, w)
    else if block then none
    else some (.running, w)

/-- Sets how a process handles a signal. -/
def handle (w : World) (p signal : Nat) (how : Handling) : World :=
  w.onProcess p fun x =>
    let ignored := x.ignored.filter (· != signal)
    let caught := x.caught.filter (· != signal)
    match how with
    | .usual => { x with ignored := ignored, caught := caught }
    | .ignore => { x with ignored := signal :: ignored, caught := caught }
    | .catch => { x with ignored := ignored, caught := signal :: caught }

/-- How a process handles a signal. -/
def handlingOf (w : World) (p signal : Nat) : Handling :=
  let x := w.process p
  if x.ignored.contains signal then .ignore
  else if x.caught.contains signal then .catch
  else .usual

/-- Lets another program take over a process: it keeps what is ignored, but catches nothing. -/
def takeOver (w : World) (p : Nat) : World :=
  w.onProcess p fun x =>
    { x with caught := [], arrived := [], descriptors := x.descriptors.filter (!·.2.inner) }

/-- The number of the parent of a process; a process whose parent has ended has another one. -/
def parentNumber (w : World) (p : Nat) : Nat :=
  let parent := (w.process p).parent
  if parent != p && w.isAlive parent then numberOf parent else 1

/-- What the world replies to a request of a process: nothing as long as the process must wait. -/
def answer (w : World) (p : Nat) : (r : Request) → Option (r.Reply × World)
  | .pass _ => some ((), w)
  | .never => none
  | .view =>
    let w := w.saved
    some (w.filesOf p, w)
  | .change f =>
    let w := w.saved
    let (r, files) := f (w.filesOf p)
    some (r, w.withFiles files)
  | .enter path =>
    let fs := w.filesOf p
    match fs.lookup path, fs.locate path with
    | .ok .dir, .ok spot => some (.ok (), w.onProcess p ({ · with dir := spot }))
    | .ok _, _ => some (.error .notDirectory, w)
    | .error e, _ => some (.error e, w)
  | .openPath path access => some (w.openPath p path access)
  | .duplicate d least inner =>
    match w.descriptor? p d with
    | none => some ((none : Option Nat), w)
    | some x =>
      let n := w.freeFrom p least
      some (some n, w.connect p n { x with inner := inner })
  | .lead d target =>
    match w.descriptor? p d with
    | none => some (false, w)
    | some x => some (true, if d == target then w else w.connect p target { x with inner := false })
  | .close d => some ((w.descriptor? p d).isSome, w.disconnect p d)
  | .pipe => some (w.newPipe p)
  | .read d line count =>
    match w.descriptor? p d, w.openFile? p d with
    | some x, some f => w.readOpen x.file f line count
    | _, _ => some (.error .badDescriptor, w)
  | .write d s =>
    match w.descriptor? p d, w.openFile? p d with
    | some x, some f => w.writeOpen p x.file f s
    | _, _ => some (.error .badDescriptor, w)
  | .seek d offset =>
    match w.descriptor? p d, w.openFile? p d with
    | some x, some { stream := .file _, .. } | some x, some { stream := .lost _, .. } =>
      some (.ok (), w.seekTo x.file offset)
    | some _, some _ => some (.error .notSeekable, w)
    | _, _ => some (.error .badDescriptor, w)
  | .position d =>
    let w := w.saved
    match w.openFile? p d with
    | none => some (.error .badDescriptor, w)
    | some f =>
      match f.stream with
      | .file _ | .lost _ => some (.ok (f.offset, (w.content f.stream).length), w)
      | _ => some (.error .notSeekable, w)
  | .sameFile d e =>
    match w.openFile? p d, w.openFile? p e with
    | some f, some g =>
      some (f.stream == g.stream && f.stream matches .file _ | .lost _, w)
    | _, _ => some (false, w)
  | .isPipe d => some ((w.openFile? p d).any fun f => f.stream matches .pipe _, w)
  | .wait block interruptible => w.waiting p block interruptible
  | .kill number signal =>
    match w.processOf? number with
    | none => some (.error .noProcess, w)
    | some q => some (.ok (), w.deliver q signal)
  | .handle signal how => some ((), w.handle p signal how)
  | .handling signal => some (w.handlingOf p signal, w)
  | .arrivals => some ((w.process p).arrived, w.onProcess p ({ · with arrived := [] }))
  | .takeOver => some ((), w.takeOver p)
  | .numbers => some ((numberOf p, w.parentNumber p), w)

/-- One more process, a copy of another one. -/
def spawn (w : World) (p : Nat) : Nat × World :=
  let child := w.processes.size
  let x := w.process p
  (child, { w with
    processes := w.processes.push { x with parent := p, arrived := [], ended := [] }
    living := w.living ++ [child] })

end World

end LintDispatch.Machine
