import LintDispatch.Decimal.Literal
import LintDispatch.Utility.Portion

/-!
# The end of files
`tail` shows the last lines or letters of each file, or all from some line or letter on. It may go on
to follow the files: whatever is added to them is shown as well, until a process has ended that it
watches, or no file is left.
-/

namespace LintDispatch.Utility

open LintDispatch.Machine

namespace Tail

open Portion

/-- How files are followed. -/
structure Following where
  follows : Bool := false
  /-- A file is known by its name, so another one may take its place. -/
  byName : Bool := false
  /-- A file that cannot be opened is tried again. -/
  retries : Bool := false
  /-- The process that is watched. -/
  watched : Nat := 0
  /-- How long to wait until files are looked at again, in microseconds. -/
  interval : Nat := 1000000
  deriving Inhabited

/-- What is wanted. -/
structure Plan where
  portion : Wanted := {}
  following : Following := {}
  deriving Inhabited

/-! ## The options -/

/-- The options. -/
def options : OptionTable where
  letters := [('c', .needed), ('n', .needed), ('f', .none), ('F', .none), ('q', .none),
    ('s', .needed), ('v', .none), ('z', .none)] ++ "0123456789".toList.map (·, .none)
  words := [("bytes", .needed, 'c'), ("follow", .allowed, 'w'), ("lines", .needed, 'n'),
    ("max-unchanged-stats", .needed, 'u'), ("-disable-inotify", .none, 'i'), ("pid", .needed, 'p'),
    ("-presume-input-pipe", .none, 'e'), ("quiet", .none, 'q'), ("retry", .none, 'r'),
    ("silent", .none, 'q'), ("sleep-interval", .needed, 's'), ("verbose", .none, 'v'),
    ("zero-terminated", .none, 'z')]

/-- The ways to follow a file. -/
def ways : List String := ["descriptor", "name"]

/-- The greatest number of a process. -/
def maxProcess : Nat := Nat.pow 2 31 - 1

/-- A number of seconds, in microseconds. -/
def interval (s : Letters) : Act Nat := do
  match Decimal.Literal.read? Letters.isSpace s with
  | some (⟨negative, .finite num den⟩, []) =>
    if !negative || num == 0 then return (num * 1000000 + den - 1) / den
  | some (⟨false, .infinite⟩, []) => return Nat.pow 10 18
  | _ => pure ()
  refuse (Letters.ofText "invalid number of seconds: " ++ quote s)

/-- The plan with an option. A plus in front of a count stands for all from there on; once it has
been given it stays. -/
def withOption (p : Plan) (o : Char × Letters) : Act Plan := do
  let (w, f) := (p.portion, p.following)
  let (c, arg) := o
  match c with
  | 'c' | 'n' =>
    let byLine := c == 'n'
    let side := if arg.head? == some '+' then Side.other else w.side
    let s := if arg.head? == some '-' then arg.tail else arg
    return { p with
      portion := { w with byLine := byLine, side := side, count := ← countOr byLine s } }
  | 'f' => return { p with following := { f with follows := true, byName := false } }
  | 'F' => return { p with following := { f with follows := true, byName := true, retries := true } }
  | 'w' =>
    let way ← if arg.isEmpty then pure "descriptor" else wordOr ways "--follow" arg.tail
    return { p with following := { f with follows := true, byName := way == "name" } }
  | 'r' => return { p with following := { f with retries := true } }
  | 'u' =>
    let _ ← numberOr "invalid maximum number of unchanged stats between opens" false arg
    return p
  | 'p' =>
    return { p with
      following := { f with watched := ← numberOr "invalid PID" false arg maxProcess } }
  | 's' => return { p with following := { f with interval := ← interval arg } }
  | c =>
    if c.isDigit then refuse (Letters.ofText "option used in invalid context -- " ++ [c])
    else return { p with portion := w.withOption c }

/-- The arguments leave room for a first one of the old style. -/
def allowsOldStyle (more : List Letters) : Bool :=
  match more with
  | [] => true
  | [a] => a.head? != some '-' || a == ['-'] || a == ['-', '-']
  | [a, _] => a == ['-', '-']
  | _ => false

/-- The plan of a first argument such as `-5` or `+3c`, if it is one: a sign, a count that may be
missing, and letters. -/
def oldStyle? (arg : Letters) : Act (Option Plan) := do
  match arg with
  | [] => return none
  | sign :: s =>
    let alone := s == [] || s == ['c']
    if sign != '+' && (sign != '-' || alone) then return none
    else
      let (digits, letters) := s.span Char.isDigit
      let (unit, rest) := letters.splitAt (if (letters.head?.map "bcl".toList.contains).getD false
        then 1 else 0)
      if rest != [] && rest != ['f'] then return none
      else
        let factor := if unit == ['b'] then 512 else 1
        let count := if digits.isEmpty then 10 else Letters.number 10 digits
        if maxNumber < count * factor then
          refuse (Letters.ofText "invalid number: " ++ quote arg ++ Letters.ofText
            (if maxNumber < count then ": Numerical result out of range" else ""))
        else
          let w : Wanted := {
            byLine := unit.isEmpty || unit == ['l'], count := count * factor
            side := if sign == '+' then .other else .plain }
          return some { portion := w, following := { follows := rest == ['f'] } }

/-- Says which options have no effect. -/
def Following.warnings (f : Following) : Act Following := do
  let text := Letters.ofText
  if f.retries && !f.follows then
    warn (text "warning: --retry ignored; --retry is useful only when following")
  else if f.retries && !f.byName then
    warn (text "warning: --retry only effective for the initial open")
  if f.watched != 0 && !f.follows then
    warn (text "warning: PID ignored; --pid=PID is useful only when following")
  return { f with retries := f.retries && f.follows }

/-! ## The files -/

/-- A file that is followed. -/
structure Followed where
  path : Letters
  /-- The descriptor that leads to the file, if it is open. -/
  descriptor : Option Nat := none
  deriving Inhabited

/-- Shows the end of what a descriptor leads to. -/
def showOpen (w : Wanted) (d : Nat) : Act (Option HostError) := do
  if w.count == 0 && w.side == .plain then return none
  let (s, fault) ← readAll d Job.rounds []
  sayPortion (ending w s)
  return fault

/-- What is said of a file that cannot grow. -/
def endless (f : Following) (path : Letters) : Letters :=
  quoteIfNeeded (shownName path) ++
    Letters.ofText ": cannot follow end of this type of file" ++
    Letters.ofText (if f.retries then "" else "; giving up on this name")

/-- Shows the end of a file: what is left to follow of it, if something is. -/
def showFile (p : Plan) (titled first : Bool) (path : Letters) :
    Act (Bool × Option Followed) := do
  let f := p.following
  match ← openInput path with
  | .error e =>
    complain (unopened path e)
    return (first, if f.retries then some { path := path } else none)
  | .ok d =>
    if titled then say (title first path)
    let fault ← showOpen p.portion d
    match fault with
    | some e => complain (unread true path e)
    | none => pure ()
    if f.follows && fault.isNone then return (false, some { path := path, descriptor := some d })
    else
      closeInput path d
      if f.follows && fault == some .isDirectory then
        complain (endless f path)
        return (false, if f.retries then some { path := path } else none)
      else return (false, none)

/-- Shows the end of each file. -/
def showFiles (p : Plan) (titled : Bool) :
    (first : Bool) → List Letters → Act (Bool × List Followed)
  | first, [] => return (first, [])
  | first, path :: paths => do
    let (first, left) ← showFile p titled first path
    let (first, more) ← showFiles p titled first paths
    return (first, left.toList ++ more)

/-! ## Following -/

/-- Opens a file that has not been there. -/
def reopen (x : Followed) : Act Followed := do
  match x.descriptor with
  | some _ => return x
  | none =>
    match ← openInput x.path with
    | .error _ => return x
    | .ok d =>
      if (← ask (.position d)) matches .ok _ then
        warn (quoteName (shownName x.path) ++ Letters.ofText " has appeared;  following new file")
        return { x with descriptor := some d }
      else
        closeInput x.path d
        return x

/-- A file that has become shorter is shown from its beginning. -/
def rewind (path : Letters) (d : Nat) : Act Unit := do
  match ← ask (.position d) with
  | .ok (offset, size) =>
    if size < offset then
      warn (quoteIfNeeded (shownName path) ++ Letters.ofText ": file truncated")
      let _ ← ask (.seek d 0)
  | .error _ => return

/-- Shows what has been added to a file. `last` is the file that was shown last. -/
def showMore (titled : Bool) (last : Option Letters) (x : Followed) : Act (Option Letters) := do
  match x.descriptor with
  | none => return last
  | some d =>
    rewind x.path d
    let (s, _) ← readAll d Job.rounds []
    if s.isEmpty then return last
    else
      if titled && last != some x.path then say (title false x.path)
      sayPortion s
      return some x.path

/-- The process is still there. -/
def isThere (process : Nat) : Act Bool := do
  let r : Except HostError Unit ← ask (.kill process 0)
  return r matches .ok ()

/-- Follows files until the watched process has ended, or for ever. -/
def follow (f : Following) (titled : Bool) (pause : Nat) :
    (rounds : Nat) → (last : Option Letters) → List Followed → Act Unit
  | 0, _, _ => return
  | rounds + 1, last, xs => do
    let gone ← if f.watched == 0 then pure false else do pure !(← isThere f.watched)
    let xs ← if f.retries then xs.mapM reopen else pure xs
    let last ← xs.foldlM (showMore titled) last
    if gone then return
    let _ : Unit ← ask (.pass pause)
    follow f titled pause rounds last xs

/-- How soon something is noticed that happens to a file, in microseconds. -/
def attention : Nat := 10000

/-- Follows the files that are left. A pipe ends once and for all. -/
def followAll (f : Following) (titled : Bool) (left : List Followed) : Act Unit := do
  let lasting ← left.filterM fun x => do
    match x.descriptor with
    | some d => return !(isInput x.path && (← ask (.isPipe d)))
    | none => return true
  let plain ← lasting.allM fun x => do
    match x.descriptor with
    | some d => do
      let hasPositions := (← ask (.position d)) matches .ok _
      return hasPositions && !isInput x.path
    | none => return true
  if lasting.isEmpty then return
  follow f titled (if plain then attention else max 1 f.interval) Job.rounds
    (left.getLast?.map (·.path)) lasting

end Tail

open Portion Tail in
/-- Shows the last part of each file. -/
def tail : Program := program fun args => do
  let old ← match args with
    | arg :: more => if allowsOldStyle more then oldStyle? arg else pure none
    | [] => pure none
  let args := if old.isSome then args.tail else args
  let (p, operands) ← Tail.options.process args (old.getD {}) Tail.withOption
  let f ← p.following.warnings
  let p := { p with following := f }
  let paths := inputs operands
  if f.byName && f.follows && paths.any isInput then
    refuse (Letters.ofText "cannot follow '-' by name")
  if p.portion.count == 0 && p.portion.side == .plain && !f.follows then return
  let titled := p.portion.titled paths
  let (_, left) ← Tail.showFiles p titled true paths
  if f.follows then
    if left.isEmpty then complain (Letters.ofText "no files remaining")
    else followAll f titled left
  closeStandardInput "-" paths

end LintDispatch.Utility
