import LintDispatch.FileSystem
import LintDispatch.Machine.Letters
import LintDispatch.Machine.Signal

/-!
# The world of processes
Processes share the files, the pipes, the open files and a clock. A descriptor of a process is the
number of an open file; descriptors that lead to the same open file share its position. What is
written to the two outcome streams is what those who started the first process get to see.
-/

namespace LintDispatch.Machine

/-- How a process ended. -/
inductive Exit where
  | code (n : Nat)
  | signal (n : Nat)
  deriving DecidableEq, Repr, Inhabited

/-- What an open file gives access to. -/
inductive Stream where
  | file (spot : Place)
  /-- A file that no path leads to any more. -/
  | lost (k : Nat)
  | directory
  | device (d : Device)
  | pipe (k : Nat)
  | outcome (k : Nat)
  deriving DecidableEq, Repr, Inhabited

/-- An open file. -/
structure OpenFile where
  stream : Stream
  offset : Nat := 0
  readable : Bool := false
  writable : Bool := false
  /-- Everything is written at the end. -/
  appends : Bool := false
  deriving DecidableEq, Repr, Inhabited

/-- What a descriptor leads to. -/
structure Descriptor where
  file : Nat
  /-- The descriptor is closed when another program takes over. -/
  inner : Bool := false
  deriving DecidableEq, Repr, Inhabited

/-- Text on its way: first what is read next, and then what was written after it, latest first. -/
structure Pipe where
  front : Letters := []
  back : List Letters := []
  size : Nat := 0
  deriving DecidableEq, Repr, Inhabited

/-- A process. -/
structure Process where
  parent : Nat
  descriptors : List (Nat × Descriptor) := []
  dir : Place := []
  alive : Bool := true
  stopped : Bool := false
  ignored : List Nat := []
  caught : List Nat := []
  /-- The caught signals that have arrived. -/
  arrived : List Nat := []
  /-- The children that have ended and that nobody has waited for. -/
  ended : List (Nat × Exit) := []
  deriving DecidableEq, Repr, Inhabited

/-- Text at the end of a file that has not been put there yet, latest first. -/
structure Unsaved where
  spot : Place
  /-- The length of the file, with all the text. -/
  size : Nat
  chunks : List Letters
  deriving DecidableEq, Repr, Inhabited

/-- What processes share. -/
structure World where
  files : FileSystem
  opened : Array OpenFile := #[]
  pipes : Array Pipe := #[]
  /-- The content of the files that no path leads to any more. -/
  lost : Array Bytes := #[]
  /-- The processes, in the order in which they began. -/
  processes : Array Process := #[]
  /-- The processes that have not ended. -/
  living : List Nat := []
  /-- What has been written to the outcome streams, latest first. -/
  outcomes : Array (List Letters) := #[[], []]
  unsaved : Option Unsaved := none
  /-- How the first process ended. -/
  ending : Option Exit := none
  /-- The time that has passed, in microseconds. -/
  clock : Nat := 0
  deriving Inhabited

/-! ## Pipes -/

namespace Pipe

/-- How much a pipe holds. -/
def capacity : Nat := 65536

/-- A write of up to this size is never torn. -/
def atomic : Nat := 4096

/-- The pipe with one more text in it. -/
def push (p : Pipe) (s : Letters) : Pipe :=
  { p with back := s :: p.back, size := p.size + s.length }

/-- What is in a pipe. -/
def text (p : Pipe) : Letters :=
  if p.back.isEmpty then p.front else p.front ++ p.back.reverse.flatten

/-- How much of a text fits into a pipe now. -/
def room (p : Pipe) (s : Letters) : Nat :=
  let free := capacity - p.size
  if s.length ≤ free then s.length
  else if s.length ≤ atomic then 0
  else free

end Pipe

/-- The first `count` letters, or fewer: those up to the end of the first line. -/
def portion (line : Bool) (count : Nat) (s : Letters) : Letters :=
  let s := s.take count
  if line then
    match s.span (· != '\n') with
    | (l, '\n' :: _) => l ++ ['\n']
    | _ => s
  else s

namespace World

/-! ## Processes -/

/-- The number by which processes know the first one. -/
def firstNumber : Nat := 100

/-- The number of a process. -/
def numberOf (p : Nat) : Nat := firstNumber + p

/-- A process. -/
def process (w : World) (p : Nat) : Process := (w.processes[p]?).getD ⟨0, [], [], false, false, [],
  [], [], []⟩

/-- Changes a process. -/
def onProcess (w : World) (p : Nat) (f : Process → Process) : World :=
  { w with processes := w.processes.modify p f }

/-- The process has not ended. -/
def isAlive (w : World) (p : Nat) : Bool := (w.process p).alive

/-- Some child of the process has not ended. -/
def hasChild (w : World) (p : Nat) : Bool :=
  w.living.any fun c => (w.process c).parent == p && c != p

/-- The process of a number: one that has not ended, or that its parent can still wait for. -/
def processOf? (w : World) (number : Nat) : Option Nat :=
  let p := number - firstNumber
  if number < firstNumber || w.processes.size ≤ p then none
  else if w.isAlive p || (w.process (w.process p).parent).ended.any (·.1 == p) then some p
  else none

/-- Notes a caught signal. One that is already waiting is not noted again. -/
def note (w : World) (p signal : Nat) : World :=
  w.onProcess p fun x =>
    if x.caught.contains signal && !x.arrived.contains signal then
      { x with arrived := x.arrived ++ [signal] }
    else x

/-- Ends a process. Its parent can wait for it, and is told. -/
def finish (w : World) (p : Nat) (e : Exit) : World :=
  if !w.isAlive p then w
  else
    let parent := (w.process p).parent
    let w := w.onProcess p fun x => { x with alive := false, descriptors := [] }
    let w := { w with living := w.living.filter (· != p) }
    if p == 0 then { w with ending := some e }
    else (w.onProcess parent fun x => { x with ended := x.ended ++ [(p, e)] }).note parent
      Signal.child

/-- Sends a signal to a process. -/
def deliver (w : World) (p signal : Nat) : World :=
  if !w.isAlive p || signal == 0 then w
  else
    let x := w.process p
    let w := if signal == Signal.resume then w.onProcess p ({ · with stopped := false }) else w
    if !Signal.isFinal signal && x.ignored.contains signal then w
    else if !Signal.isFinal signal && x.caught.contains signal then w.note p signal
    else match Signal.effect signal with
      | .nothing => w
      | .stops => w.onProcess p ({ · with stopped := true })
      | .ends => w.finish p (.signal signal)

/-! ## Descriptors -/

/-- Where a descriptor leads. -/
def descriptor? (w : World) (p d : Nat) : Option Descriptor :=
  ((w.process p).descriptors.find? (·.1 == d)).map (·.2)

/-- The open file that a descriptor leads to. -/
def openFile? (w : World) (p d : Nat) : Option OpenFile :=
  (w.descriptor? p d).bind fun x => w.opened[x.file]?

/-- Lets a descriptor lead to an open file. -/
def connect (w : World) (p d : Nat) (x : Descriptor) : World :=
  w.onProcess p fun q => { q with descriptors := (d, x) :: q.descriptors.filter (·.1 != d) }

/-- Closes a descriptor. -/
def disconnect (w : World) (p d : Nat) : World :=
  w.onProcess p fun q => { q with descriptors := q.descriptors.filter (·.1 != d) }

/-- The lowest number from `least` on that is no descriptor. -/
def freeFrom (w : World) (p least : Nat) : Nat :=
  let used := (w.process p).descriptors.map (·.1)
  ((List.range (used.length + 1)).map (least + ·)).find? (!used.contains ·) |>.getD least

/-- The open files that some process can reach. -/
def reached (w : World) : List Nat :=
  (w.living.flatMap fun p => (w.process p).descriptors.map fun d => d.2.file).eraseDups

/-- Where one more open file is kept: in the place of one that no process can reach any more, or in a
new place. -/
def spare (w : World) : Nat :=
  let reached := w.reached
  ((List.range w.opened.size).find? (!reached.contains ·)).getD w.opened.size

/-- Opens a file: the descriptor that leads to it, and the world after that. -/
def opening (w : World) (p : Nat) (f : OpenFile) : Nat × World :=
  let d := w.freeFrom p 0
  let i := w.spare
  let opened := if i < w.opened.size then w.opened.setIfInBounds i f else w.opened.push f
  (d, { w with opened := opened }.connect p d ⟨i, false⟩)

/-- Some process has a descriptor to an open file of this kind. -/
def someHolds (w : World) (kind : OpenFile → Bool) : Bool :=
  w.living.any fun p => (w.process p).descriptors.any fun d =>
    ((w.opened[d.2.file]?).map kind).getD false

/-- Somebody could read from a pipe. -/
def hasReader (w : World) (k : Nat) : Bool :=
  w.someHolds fun f => f.stream == .pipe k && f.readable

/-- Somebody could write to a pipe. -/
def hasWriter (w : World) (k : Nat) : Bool :=
  w.someHolds fun f => f.stream == .pipe k && f.writable

/-- Somebody could write to an outcome stream. -/
def isHeld (w : World) : Bool :=
  w.someHolds fun f => f.stream matches .outcome _

/-! ## Files -/

/-- Puts what has not been saved where it belongs. -/
def saved (w : World) : World :=
  match w.unsaved with
  | none => w
  | some u =>
    match w.files.node? u.spot with
    | some (.file old) =>
      { w with
        unsaved := none
        files := w.files.put u.spot (.file (old ++ Letters.bytes u.chunks.reverse.flatten)) }
    | _ => { w with unsaved := none }

/-- The files as a process sees them. -/
def filesOf (w : World) (p : Nat) : FileSystem :=
  { w.files with workingDir := (w.process p).dir }

/-- What an open file gives access to. -/
def stream? (w : World) (file : Nat) : Option Stream := (w.opened[file]?).map OpenFile.stream

/-- What a stream holds, as far as it has positions. -/
def content (w : World) : Stream → Bytes
  | .file spot =>
    match w.files.node? spot with
    | some (.file c) => c
    | _ => []
  | .lost k => (w.lost[k]?).getD []
  | _ => []

/-- Lets all open files that lead where this one leads keep the content that is there now. -/
def loseFile (w : World) (file : Nat) : World :=
  match w.stream? file with
  | some (.file spot) =>
    let lose (f : OpenFile) : OpenFile :=
      if f.stream == .file spot then { f with stream := .lost w.lost.size } else f
    { w with lost := w.lost.push (w.content (.file spot)), opened := w.opened.map lose }
  | _ => w

/-- Takes over changed files. Whoever has a file open that is gone keeps its content. -/
def withFiles (w : World) (files : FileSystem) : World :=
  let gone := w.reached.filter fun i =>
    match w.stream? i with
    | some (.file spot) => !(files.node? spot matches some (.file _))
    | _ => false
  let w := gone.foldl loseFile w
  { w with files := { files with workingDir := w.files.workingDir } }

/-- Gives a stream with positions a new content. -/
def setContent (w : World) (s : Stream) (c : Bytes) : World :=
  match s with
  | .file spot => { w with files := w.files.put spot (.file c) }
  | .lost k => { w with lost := w.lost.modify k fun _ => c }
  | _ => w

/-- Moves the position of an open file. -/
def seekTo (w : World) (file offset : Nat) : World :=
  { w with opened := w.opened.modify file ({ · with offset := offset }) }

/-- A content with a text at a position; a gap before it is filled with zeros. -/
def overwrite (old : Bytes) (offset : Nat) (s : Bytes) : Bytes :=
  old.take offset ++ List.replicate (offset - old.length) 0 ++ s ++ old.drop (offset + s.length)

/-- Writes a text into a file through an open file. Text for the end of a file is saved later. -/
def writeFile (w : World) (file : Nat) (f : OpenFile) (s : Letters) : World :=
  let w := match w.unsaved, f.stream with
    | some u, .file spot => if u.spot == spot then w else w.saved
    | _, _ => w.saved
  let size := match w.unsaved with
    | some u => u.size
    | none => (w.content f.stream).length
  let offset := if f.appends then size else f.offset
  let after := w.seekTo file (offset + s.length)
  match f.stream with
  | .file spot =>
    if offset == size then
      let chunks := (w.unsaved.map (·.chunks)).getD []
      { after with unsaved := some ⟨spot, size + s.length, s :: chunks⟩ }
    else
      let after := after.saved
      after.setContent f.stream (overwrite (after.content f.stream) offset (Letters.bytes s))
  | _ => after.setContent f.stream (overwrite (w.content f.stream) offset (Letters.bytes s))

end World

end LintDispatch.Machine
