import LintDispatch.Shell.Builtin.Variables
import LintDispatch.Shell.Lookup

/-!
# Builtins for places and names
The working directory is shown and changed, files are looked at, and names of commands are looked up.
-/

namespace LintDispatch.Shell

open LintDispatch.Machine

/-! ## The working directory -/

/-- The path of the working directory. -/
def workingPath : Act Letters := do
  let fs : FileSystem ← ask .view
  return Letters.ofBytes fs.workingPath

/-- A path from the root with the dots in it worked out. `here` is where relative paths begin. -/
def plainPath (here : Place) (path : Letters) : Letters :=
  let p : Path := Letters.bytes path
  let start := if p.isAbsolute then [] else here
  let spot := (Bytes.splitOn Path.slash p).foldl (fun spot part =>
    match Path.component part with
    | some .up => spot.dropLast
    | some (.name n) => spot ++ [n]
    | _ => spot) start
  Letters.ofBytes (FileSystem.pathOf spot)

/-- Works in another directory from now on. -/
def enter (physical : Bool) (path : Letters) : Act Bool := do
  let fs : FileSystem ← ask .view
  let target := if physical then path else plainPath fs.workingDir path
  let r : Except HostError Unit ← ask (.enter (Letters.bytes target))
  match r with
  | .error _ => return false
  | .ok () =>
    modify fun st => { st with places := st.places.filter fun p => p.2.head? == some '/' }
    assign (Letters.ofText "OLDPWD") (Letters.ofBytes fs.workingPath) true
    assign (Letters.ofText "PWD") (← workingPath) true
    return true

/-- A directory of this path can be looked for in other places. -/
def isSearched (path : Letters) : Bool :=
  match path with
  | '/' :: _ | '.' :: '/' :: _ | '.' :: '.' :: '/' :: _ | ['.'] | ['.', '.'] => false
  | _ => true

/-- The first directory among some paths; with it, whether it was found in a named place. -/
def firstDirectory (fs : FileSystem) (name : Letters) (dirs : List Letters) :
    Option (Letters × Bool) :=
  dirs.findSome? fun dir =>
    let p := if dir.isEmpty then name else dir ++ '/' :: name
    if fs.isDir (Letters.bytes p) then some (p, !dir.isEmpty) else none

/-- Changes the working directory. -/
def cd : Builtin := fun args => do
  let (os, args) ← optionsOf "LP" args
  let physical := lastOption os == some 'P'
  let st ← get
  let (name, back) := match args with
    | ['-'] :: _ => (st.valueOr "OLDPWD" [], true)
    | a :: _ => (a, false)
    | [] => (st.valueOr "HOME" [], false)
  let fs : FileSystem ← ask .view
  let found := if isSearched name then
      (st.valueOf? (Letters.ofText "CDPATH")).bind fun path =>
        firstDirectory fs (if name.isEmpty then ['.'] else name) (path.splitOn ':')
    else none
  let (path, announced) := found.getD (if name.isEmpty then ['.'] else name, false)
  if ← enter physical path then
    if back || announced then sayLine (← workingPath)
    return 0
  else abort (Letters.ofText "can't cd to " ++ name)

/-- Shows the working directory. -/
def pwd : Builtin := fun args => do
  let _ ← optionsOf "LP" args
  sayLine (← workingPath)
  return 0

/-! ## The mask for new files -/

/-- What a mask leaves to somebody, in letters. -/
def maskLetters (mask shift : Nat) : Letters :=
  let bits := mask >>> shift
  (if bits &&& 4 == 0 then ['r'] else []) ++ (if bits &&& 2 == 0 then ['w'] else []) ++
    (if bits &&& 1 == 0 then ['x'] else [])

/-- The bits of a letter for what may be done. -/
def rightBits (c : Char) : Option Nat :=
  match c with
  | 'r' => some 4
  | 'w' => some 2
  | 'x' => some 1
  | _ => none

/-- The mask after one clause such as `g+w`. -/
def maskAfter? (mask : Nat) (clause : Letters) : Option Nat := do
  let (who, rest) := clause.span fun c => "ugoa".toList.contains c
  let shifts := if who.isEmpty || who.contains 'a' then [6, 3, 0]
    else (if who.contains 'u' then [6] else []) ++ (if who.contains 'g' then [3] else []) ++
      (if who.contains 'o' then [0] else [])
  match rest with
  | op :: letters =>
    let bits := (← letters.mapM rightBits).foldl (· ||| ·) 0
    let change (m shift : Nat) : Nat :=
      let old := m >>> shift &&& 7
      let new := match op with
        | '+' => old &&& (7 - bits)
        | '-' => old ||| bits
        | _ => 7 - bits
      m - (old <<< shift) + (new <<< shift)
    if "+-=".toList.contains op then some (shifts.foldl change mask) else none
  | [] => none

/-- Shows or sets the mask for new files. -/
def umask : Builtin := fun args => do
  let (os, args) ← optionsOf "S" args
  let mask := (← get).mask
  match args with
  | [] =>
    if os.isEmpty then
      let digits := Nat.toDigits 8 mask
      sayLine (List.replicate (4 - digits.length) '0' ++ digits)
    else
      sayLine (Letters.ofText "u=" ++ maskLetters mask 6 ++ Letters.ofText ",g=" ++
        maskLetters mask 3 ++ Letters.ofText ",o=" ++ maskLetters mask 0)
    return 0
  | a :: _ =>
    let new ← if (a.head?.map Char.isDigit).getD false then
        if a.all fun c => '0' ≤ c && c ≤ '7' then pure (Letters.number 8 a % 512)
        else illegalNumber a
      else
        match (a.splitOn ',').foldlM maskAfter? mask with
        | some m => pure m
        | none => abort (Letters.ofText "Illegal mode: " ++ a)
    modify fun st => { st with mask := new }
    return 0

/-! ## Conditions -/

/-- Says whether a condition holds. -/
def testBuiltin : Builtin := fun args => do
  let fs : FileSystem ← ask .view
  match Condition.eval fs args with
  | .ok b => return if b then 0 else 1
  | .error fault => abort fault

/-- Says whether the condition in brackets holds. -/
def bracket : Builtin := fun args => do
  if args.getLast? == some [']'] then testBuiltin args.dropLast
  else abort (Letters.ofText "missing ]")

/-! ## Names -/

/-- Says what a name stands for, in words or as briefly as can be. The answer is a status. -/
def describe (verbose : Bool) (path : Option Letters) (name : Letters) : Act Nat := do
  let st ← get
  let tell (text : Letters) : Act Nat := do
    sayLine (if verbose then name ++ text else name)
    return 0
  if Token.keywords.contains (String.ofList name) then
    tell (Letters.ofText " is a shell keyword")
  else
    match st.aliases.find? (·.1 == name) with
    | some a =>
      sayLine (if verbose then name ++ Letters.ofText " is an alias for " ++ a.2
        else Letters.ofText "alias " ++ aliasLine a)
      return 0
    | none =>
      let known := path.isNone && st.places.any (·.1 == name)
      match ← locate true path name with
      | .function _ => tell (Letters.ofText " is a shell function")
      | .builtin =>
        tell (Letters.ofText (if isSpecial name then " is a special shell builtin"
          else " is a shell builtin"))
      | .program p =>
        let fs : FileSystem ← ask .view
        if isPath name && !fs.exists? (Letters.bytes name) then absent
        else
          sayLine (if verbose then
              name ++ Letters.ofText (if known then " is a tracked alias for " else " is ") ++ p
            else p)
          return 0
      | .nowhere _ => absent
where
  /-- Says that there is no command of this name. -/
  absent : Act Nat := do
    if verbose then sayLine (name ++ Letters.ofText ": not found")
    return 127

/-- Says what names stand for. -/
def typeBuiltin : Builtin := fun args => do
  let args ← withoutOptions args
  let statuses ← args.mapM (describe true none)
  return statuses.foldl (· ||| ·) 0

/-- Says what a name stands for, if that is asked for. -/
def commandBuiltin : Builtin := fun args => do
  let (os, args) ← optionsOf "pvV" args
  let how := os.map (·.1)
  let path := if how.contains 'p' then some usualPath else none
  match args with
  | name :: _ =>
    if how.contains 'V' then describe true path name
    else if how.contains 'v' then describe false path name
    else return 0
  | [] => return 0

/-- The number by which known places are ordered. -/
def placeOrder (name : Letters) : Nat :=
  (16 * ((name.head?.map Char.toNat).getD 0) + name.foldl (fun n c => n + c.toNat) 0) % 32768 % 31

/-- Remembers where a program is. The answer says whether it is anywhere. -/
def remembered (name : Letters) : Act Bool := do
  modify fun st => { st with places := st.places.filter (·.1 != name) }
  match ← locate true none name with
  | .nowhere e =>
    complain (name ++ Letters.ofText ": " ++ programFault e)
    return false
  | _ => return true

/-- Remembers, forgets and shows where programs are. -/
def hash : Builtin := fun args => do
  let (os, args) ← optionsOf "r" args
  if !os.isEmpty then
    modify fun st => { st with places := [] }
    return 0
  else if args.isEmpty then
    let all := (← get).places.mergeSort fun a b => placeOrder a.1 ≤ placeOrder b.1
    all.forM fun p => sayLine p.2
    return 0
  else
    let found ← args.mapM remembered
    return if found.all id then 0 else 1

/-! ## Limits and times -/

/-- Shows or sets a limit. -/
def ulimit : Builtin := fun args => do
  let (os, args) ← optionsOf "HSatfdscmlpnvwr" args
  let what := ((os.map (·.1)).reverse.find? fun c => c != 'H' && c != 'S').getD 'f'
  let unlimited := Letters.ofText "unlimited"
  match args with
  | [] =>
    let set := (← get).limits.find? (·.1 == what)
    sayLine ((set.map (·.2)).getD unlimited)
    return 0
  | [a] =>
    if a.all Char.isDigit || a == unlimited then
      modify fun st => { st with limits := (what, a) :: st.limits.filter (·.1 != what) }
      return 0
    else abort (Letters.ofText "bad number")
  | _ => abort (Letters.ofText "too many arguments")

/-- Shows the time that was used up. -/
def times : Builtin := fun _ => do
  let line := Letters.ofText "0m0.000000s 0m0.000000s"
  sayLine line
  sayLine line
  return 0

end LintDispatch.Shell
