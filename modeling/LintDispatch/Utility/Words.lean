import LintDispatch.Machine.Search
import LintDispatch.Utility.Printf

/-!
# Small programs
Programs that say their arguments or parts of them, count, copy their input, or start another program
with other variables.
-/

namespace LintDispatch.Utility

open LintDispatch.Machine

/-- Does nothing, and ends with a status. -/
def nothing (status : Nat) : Program := program fun _ => exit status

namespace Echo

/-- Which of the options in front are on: no line end, and escapes. -/
def options (quiet escapes : Bool) : List Letters → Bool × Bool × List Letters
  | ('-' :: c :: s) :: rest =>
    if (c :: s).all fun c => c == 'n' || c == 'e' || c == 'E' then
      options (quiet || (c :: s).contains 'n')
        (match (c :: s).reverse.find? (· != 'n') with
          | some 'e' => true
          | some _ => false
          | none => escapes) rest
    else (quiet, escapes, ('-' :: c :: s) :: rest)
  | args => (quiet, escapes, args)

/-- A text with its escapes replaced, and whether `\c` cut it short. -/
def unescape : (fuel : Nat) → Letters → Letters × Bool
  | 0, s => (s, false)
  | _, [] => ([], false)
  | fuel + 1, '\\' :: c :: s =>
    let go (lead rest : Letters) : Letters × Bool :=
      let (t, cut) := unescape fuel rest
      (lead ++ t, cut)
    if c == 'c' then ([], true)
    else if c == '0' then
      let digits := (s.take 3).takeWhile Printf.isOctal
      go [Printf.charOf 8 digits] (s.drop digits.length)
    else if '1' ≤ c && c ≤ '7' then
      let digits := ((c :: s).take 3).takeWhile Printf.isOctal
      go [Printf.charOf 8 digits] ((c :: s).drop digits.length)
    else if c == 'x' && (s.head?.map Printf.isHex).getD false then
      let digits := (s.take 2).takeWhile Printf.isHex
      go [Printf.charOf 16 digits] (s.drop digits.length)
    else
      match if c == '"' then none else Printf.escape? c with
      | some e => go [e] s
      | none => go ['\\', c] s
  | fuel + 1, c :: s =>
    let (t, cut) := unescape fuel s
    (c :: t, cut)

end Echo

/-- Says its arguments. -/
def echo : Program := program fun args => do
  if args == [Letters.ofText "--help"] || args == [Letters.ofText "--version"] then exit 0
  let (quiet, escapes, words) := Echo.options false false args
  let s := [' '].intercalate words
  let (s, cut) := if escapes then Echo.unescape s.length s else (s, false)
  say (if quiet || cut then s else s ++ ['\n'])

/-- Shows the working directory. -/
def pwd : Program := program fun _ => do
  let fs : FileSystem ← ask .view
  say (Letters.ofBytes fs.workingPath ++ ['\n'])

/-! ## Parts of paths -/

/-- A path without the slashes at its end; of the root one stays. -/
def withoutEnd (path : Letters) : Letters :=
  let s := (path.reverse.dropWhile (· == '/')).reverse
  if s.isEmpty then path.take 1 else s

/-- The last name in a path, without an ending. -/
def baseName (ending path : Letters) : Letters :=
  let s := withoutEnd path
  let name := if s == ['/'] then s else (s.reverse.takeWhile (· != '/')).reverse
  if ending.length < name.length && ending.isSuffixOf name then
    name.take (name.length - ending.length)
  else name

/-- Shows the last names of paths. -/
def basename : Program := program fun args => do
  let table : OptionTable := {
    letters := [('a', .none), ('s', .needed), ('z', .none)]
    words := [("multiple", .none, 'a'), ("suffix", .needed, 's'), ("zero", .none, 'z')]
    leading := true }
  let a ← table.sort args
  let last : Letters := if a.has 'z' then [Char.ofNat 0] else ['\n']
  let show' (ending path : Letters) : Act Unit := say (baseName ending path ++ last)
  match a.operands with
  | [] => misused (Letters.ofText "missing operand")
  | path :: more =>
    if a.has 'a' || a.has 's' then (path :: more).forM (show' ((a.last? 's').getD []))
    else
      match more with
      | [] => show' [] path
      | [ending] => show' ending path
      | _ :: extra :: _ => misused (Letters.ofText "extra operand " ++ quote extra)

/-- A path without its last name. -/
def directoryName (path : Letters) : Letters :=
  let s := withoutEnd path
  let above := s.reverse.dropWhile (· != '/')
  if above.isEmpty then if s.head? == some '/' then ['/'] else ['.']
  else withoutEnd above.reverse

/-- Shows paths without their last names. -/
def dirname : Program := program fun args => do
  let table : OptionTable := { letters := [('z', .none)], words := [("zero", .none, 'z')] }
  let a ← table.sort args
  let last : Letters := if a.has 'z' then [Char.ofNat 0] else ['\n']
  if a.operands.isEmpty then misused (Letters.ofText "missing operand")
  a.operands.forM fun path => say (directoryName path ++ last)

/-! ## Numbers in a row -/

namespace Sequence

/-- A number that an argument spells: `units` in its last place, which is the `places`-th after the
point. -/
structure Operand where
  units : Int
  places : Nat := 0
  /-- How many letters it is spelled with. -/
  width : Nat := 1
  deriving Repr, Inhabited

/-- The number that a text spells. -/
def Operand.ofLetters? (s : Letters) : Option Operand :=
  let s := s.dropWhile fun c => c == ' ' || c == '\t'
  let s := if s.head? == some '+' then s.tail else s
  let (negative, digits) := match s with
    | '-' :: digits => (true, digits)
    | digits => (false, digits)
  let (whole, rest) := digits.span Char.isDigit
  let fraction := rest.tail
  if (whole.isEmpty && fraction.isEmpty) || !fraction.all Char.isDigit
      || !(rest.isEmpty || rest.head? == some '.') then none
  else
    let n : Int := Int.ofNat (Letters.number 10 (whole ++ fraction))
    some { units := if negative then -n else n, places := fraction.length, width := s.length }

/-- The number in smaller units. -/
def Operand.unitsAt (places : Nat) (o : Operand) : Int := o.units * Int.pow 10 (places - o.places)

/-- How many letters the number takes with so many places. -/
def Operand.widthAt (places : Nat) (o : Operand) : Nat :=
  let point := if o.places == 0 then 0 else 1
  o.width - o.places - point + places + (if places == 0 then 0 else 1)

/-- The number that an argument spells. -/
def number (s : Letters) : Act Operand := do
  match Operand.ofLetters? s with
  | some n => return n
  | none => misused (Letters.ofText "invalid floating point argument: " ++ quote s)

/-- A row of numbers: how many there are, where they begin and what lies between them, in units of
the last place; and how they are shown. -/
structure Row where
  count : Nat
  first : Int
  step : Int
  places : Nat
  width : Nat := 0
  separator : Letters := ['\n']
  deriving Repr, Inhabited

/-- The row between two numbers. -/
def Row.between (first step last : Operand) (even : Bool) (separator : Letters) : Row :=
  let places := max first.places step.places
  let exact := max places last.places
  let (f, s, l) := (first.unitsAt exact, step.unitsAt exact, last.unitsAt exact)
  let count := if 0 < s then (l - f) / s + 1 else (f - l) / (-s) + 1
  { count := count.toNat, first := first.unitsAt places, step := step.unitsAt places
    places := places, separator := separator
    width := if even then max (first.widthAt places) (last.widthAt places) else 0 }

/-- A number of the row, with zeros in front. -/
def Row.shown (r : Row) (k : Nat) : Letters :=
  let n := r.first + Int.ofNat k * r.step
  let digits := Letters.ofNat n.natAbs
  let digits := List.replicate (r.places + 1 - digits.length) '0' ++ digits
  let (whole, fraction) := digits.splitAt (digits.length - r.places)
  let text := whole ++ (if fraction.isEmpty then [] else '.' :: fraction)
  let sign : Letters := if n < 0 then ['-'] else []
  sign ++ List.replicate (r.width - text.length - sign.length) '0' ++ text

/-- How many numbers are written at once. -/
def together : Nat := 1000

/-- Says so many numbers of the row, the first of them being the `k`-th. -/
def sayFrom (r : Row) (k : Nat) (left : Nat) : Act Unit := do
  if _ : left = 0 then return
  else
    let now := min together left
    let lead := if k == 0 then [] else r.separator
    say (lead ++ r.separator.intercalate ((List.range now).map fun i => r.shown (k + i)))
    sayFrom r (k + now) (left - now)
termination_by left
decreasing_by simp only [together]; omega

end Sequence

open Sequence in
/-- Shows numbers in a row. -/
def seq : Program := program fun args => do
  let table : OptionTable := {
    letters := [('s', .needed), ('w', .none)]
    words := [("separator", .needed, 's'), ("equal-width", .none, 'w')], leading := true }
  let isNumber (s : Letters) : Bool := (Operand.ofLetters? s).isSome
  let front := args.takeWhile fun s => !isNumber s
  let a ← table.sort front
  let operands := a.operands ++ args.drop front.length
  let one : Operand := { units := 1 }
  let (first, step, last) ← match operands with
    | [] => misused (Letters.ofText "missing operand")
    | [l] => do pure (one, one, ← number l)
    | [f, l] => do pure (← number f, one, ← number l)
    | [f, s, l] => do pure (← number f, ← number s, ← number l)
    | _ :: _ :: _ :: extra :: _ => misused (Letters.ofText "extra operand " ++ quote extra)
  if step.units == 0 then
    misused (Letters.ofText "invalid Zero increment value: " ++ quote (operands.getD 1 []))
  let row := Row.between first step last (a.has 'w') ((a.last? 's').getD ['\n'])
  sayFrom row 0 row.count
  if row.count != 0 then say ['\n']

/-- Says the same text again and again. -/
def sayForever (s : Letters) : (rounds : Nat) → Act Unit
  | 0 => return
  | rounds + 1 => do
    sayOr (because (Letters.ofText "standard output")) s
    sayForever s rounds

/-- Says the same line again and again. -/
def yes : Program := program fun args => do
  let line := (if args.isEmpty then ['y'] else [' '].intercalate args) ++ ['\n']
  let block := (List.replicate (max 1 (blockSize / line.length)) line).flatten
  sayForever block Job.rounds

/-! ## Copies of the input -/

namespace Tee

/-- Opens a file for a copy. -/
def openCopy (append : Bool) (path : Letters) : Act (Option (Letters × Nat)) := do
  let r : Except HostError Nat ←
    ask (.openPath (Letters.bytes path) (if append then .append else .write))
  match r with
  | .ok d => return some (path, d)
  | .error e =>
    complain (because (quoteIfNeeded path) e)
    return none

/-- Writes a block to all copies; those that fail are given up. -/
def copyBlock (copies : List (Letters × Nat)) (block : Letters) : Act (List (Letters × Nat)) :=
  copies.filterM fun (path, d) => do
    match ← writeAll d block.length block with
    | .ok () => return true
    | .error e =>
      complain (because (quoteIfNeeded path) e)
      return false

end Tee

/-- Copies its input to its output and to files. -/
def tee : Program := program fun args => do
  let table : OptionTable := {
    letters := [('a', .none), ('i', .none), ('p', .none)]
    words := [("append", .none, 'a'), ("ignore-interrupts", .none, 'i')] }
  let a ← table.sort args
  let copies ← a.operands.filterMapM (Tee.openCopy (a.has 'a'))
  let (_, fault) ← eachBlock 0 blockSize (fun copies block => do
    return (← Tee.copyBlock copies block, true)) Job.rounds
    ((Letters.ofText "standard output", 1) :: copies)
  match fault with
  | some e => complain (because (Letters.ofText "read error") e)
  | none => pure ()
  for copy in copies do
    let _ ← ask (.close copy.2)
  closeStandardInput "standard input" (inputs [])

/-! ## Other variables -/

namespace Env

/-- What `env` is to do. -/
structure Wanted where
  env : Environment
  command : List Letters := []
  deriving Inhabited

/-- The variables with one more, or with another value of one. -/
def setting (env : Environment) (name value : Letters) : Environment :=
  if env.any (·.1 == name) then env.map fun v => if v.1 == name then (name, value) else v
  else env ++ [(name, value)]

/-- Takes the assignments in front of a command. -/
def wanted (env : Environment) : List Letters → Wanted
  | [] => { env := env }
  | a :: rest =>
    match a.span (· != '=') with
    | (name, _ :: value) => wanted (setting env name value) rest
    | _ => { env := env, command := a :: rest }

/-- Starts a command. -/
def start (launch : Launcher) (fs : FileSystem) (w : Wanted) : Except HostError Task :=
  let name := w.command.headD []
  let path := ((w.env.find? (·.1 == Letters.ofText "PATH")).map (·.2)).getD usualPath
  let i : Invocation := { name := name, args := w.command.tail, env := w.env }
  match if isPath name then .ok name else findProgram fs path name with
  | .error e => .error e
  | .ok p => launch fs p i

/-- The options. -/
def options : OptionTable where
  letters := [('i', .none), ('u', .needed), ('0', .none), ('C', .needed)]
  words := [("ignore-environment", .none, 'i'), ("unset", .needed, 'u'), ("null", .none, '0')]
  leading := true

end Env

/-- Starts a command with other variables, or shows the variables. -/
def env : Program := fun i launch =>
  ((do
    let a ← Env.options.sort i.args 125
    let operands := if a.operands.head? == some ['-'] then a.operands.tail else a.operands
    let cleared := a.has 'i' || a.operands.head? == some ['-']
    let removed := a.options.filterMap fun o => if o.1 == 'u' then some o.2 else none
    let first := if cleared then [] else i.env.filter fun v => !removed.contains v.1
    let w := Env.wanted first operands
    if w.command.isEmpty then
      w.env.forM fun v => say (v.1 ++ '=' :: v.2 ++ ['\n'])
      return none
    else
      let fs : FileSystem ← ask .view
      match Env.start launch fs w with
      | .ok t => return some t
      | .error e =>
        warn (because (quote (w.command.headD [])) e)
        exit (if e == .missing then 127 else 126) : Act (Option Task)).run i.name).run.run 0
    fun (r, status) =>
      match r with
      | .ok (some t) => .ask .takeOver fun _ => t
      | .ok none => .ended (.code status)
      | .error status => .ended (.code status)

end LintDispatch.Utility
