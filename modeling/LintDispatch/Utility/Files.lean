import LintDispatch.Utility.Options

/-!
# Making and removing files
Directories are made and removed, files are made, removed and declared to be programs.
-/

namespace LintDispatch.Utility

open LintDispatch.Machine

/-- Names are ordered letter by letter. -/
def inOrder (a b : Letters) : Bool := !List.lex b a fun c d => decide (c < d)

/-- The names of a directory in order. -/
def namesIn (fs : FileSystem) (spot : Place) : List Letters :=
  ((fs.names spot).map Letters.ofBytes).mergeSort inOrder

/-- Changes the files, and complains if that is impossible. -/
def changing (what : Letters) (f : FileSystem → Except HostError Unit × FileSystem) : Act Bool := do
  let r : Except HostError Unit ← ask (.change f)
  match r with
  | .ok () => return true
  | .error e =>
    complain (because what e)
    return false

/-- A complaint without an end, about something that has a name. -/
def cannot (what : String) (path : Letters) : Letters :=
  Letters.ofText (what ++ " ") ++ quoteName path

/-- Tells of something that has been done to a file. -/
def tell (what : String) (path : Letters) : Act Unit :=
  say (Letters.ofText (what ++ " ") ++ quoteName path ++ ['\n'])

/-! ## Removing -/

namespace Rm

/-- How files are removed. -/
structure Manner where
  force : Bool := false
  recursive : Bool := false
  directories : Bool := false
  verbose : Bool := false
  deriving Inhabited

/-- The last name in a path is a dot or two of them. -/
def endsInDots (path : Letters) : Bool :=
  let s := (path.reverse.dropWhile (· == '/')).reverse
  let name := (s.reverse.takeWhile (· != '/')).reverse
  name == ['.'] || name == ['.', '.']

/-- A path below another one. -/
def below (path name : Letters) : Letters :=
  if path.getLast? == some '/' then path ++ name else path ++ '/' :: name

/-- Everything below a directory and the directory itself, in the order of removal. -/
def order (fs : FileSystem) : (fuel : Nat) → Letters → Place → List (Bool × Letters)
  | 0, _, _ => []
  | fuel + 1, path, spot =>
    if (fs.node? spot) matches some .dir then
      (namesIn fs spot).flatMap (fun name =>
        order fs fuel (below path name) (spot ++ [Letters.bytes name])) ++ [(true, path)]
    else [(false, path)]

/-- Tells of what has been removed. -/
def report (m : Manner) (directory : Bool) (path : Letters) : Act Unit := do
  if m.verbose then tell (if directory then "removed directory" else "removed") path

/-- Removes a directory. -/
def removeDir (m : Manner) (fs : FileSystem) (path : Letters) (spot : Place) : Act Unit := do
  if m.recursive then
    if spot.isEmpty then
      complain (Letters.ofText "it is dangerous to operate recursively on '/'")
      complain (Letters.ofText "use --no-preserve-root to override this failsafe")
    else if endsInDots path then
      complain (Letters.ofText "refusing to remove '.' or '..' directory: skipping " ++
        quoteName path)
    else if ← changing (cannot "cannot remove" path) fun fs => (.ok (), fs.eraseTree spot) then
      (order fs (fs.entries.length + 1) path spot).forM fun e => report m e.1 e.2
  else if m.directories then
    if ← changing (cannot "cannot remove" path) (·.removeDir (Letters.bytes path)) then
      report m true path
  else complain (because (cannot "cannot remove" path) .isDirectory)

/-- Removes what is at a path. -/
def remove (m : Manner) (path : Letters) : Act Unit := do
  let fs : FileSystem ← ask .view
  let p := Letters.bytes path
  match fs.lookup p, fs.locate p with
  | .error e, _ | _, .error e =>
    if !(m.force && (e == .missing || e == .notDirectory)) then
      complain (because (cannot "cannot remove" path) e)
  | .ok .dir, .ok spot => removeDir m fs path spot
  | .ok _, _ =>
    if ← changing (cannot "cannot remove" path) (·.unlink p) then report m false path

/-- The options. -/
def options : OptionTable where
  letters := "dfiIrRv".toList.map (·, .none)
  words := [("dir", .none, 'd'), ("force", .none, 'f'), ("interactive", .allowed, 'i'),
    ("no-preserve-root", .none, 'N'), ("one-file-system", .none, 'O'),
    ("preserve-root", .allowed, 'P'), ("recursive", .none, 'r'), ("verbose", .none, 'v')]

end Rm

/-- Removes files. -/
def rm : Program := program fun args => do
  let a ← Rm.options.sort args
  let m : Rm.Manner := {
    force := a.has 'f', recursive := a.has 'r' || a.has 'R', directories := a.has 'd'
    verbose := a.has 'v' }
  if a.operands.isEmpty && !m.force then misused (Letters.ofText "missing operand")
  a.operands.forM (Rm.remove m)

/-- The paths of a directory and of those above it that its path names, the longest first. -/
def withParents : (fuel : Nat) → Letters → List Letters
  | 0, _ => []
  | fuel + 1, path =>
    let s := (path.reverse.dropWhile (· == '/')).dropWhile (· != '/')
    let above := (s.dropWhile (· == '/')).reverse
    if above.isEmpty then [path] else path :: withParents fuel above

/-- Removes empty directories. -/
def rmdir : Program := program fun args => do
  let table : OptionTable := {
    letters := [('p', .none), ('v', .none)]
    words := [("parents", .none, 'p'), ("verbose", .none, 'v'),
      ("ignore-fail-on-non-empty", .none, 'I')] }
  let a ← table.sort args
  if a.operands.isEmpty then misused (Letters.ofText "missing operand")
  let removeOne (going : Bool) (path : Letters) : Act Bool := do
    if !going then return false
    if a.has 'v' then
      say (Letters.ofText "rmdir: removing directory, " ++ quoteName path ++ ['\n'])
    let r : Except HostError Unit ← ask (.change (·.removeDir (Letters.bytes path)))
    match r with
    | .ok () => return true
    | .error e =>
      if !(a.has 'I' && e == .notEmpty) then
        complain (because (cannot "failed to remove" path) e)
      return false
  a.operands.forM fun path => do
    let paths := if a.has 'p' then withParents (path.length + 1) path else [path]
    let _ ← paths.foldlM removeOne true

/-! ## Modes -/

namespace Chmod

/-- What a mode does to the right to execute a file, if the mode makes sense. -/
def clause? (runs : Bool) (s : Letters) : Option Bool :=
  let (_, rest) := s.span fun c => "ugoa".toList.contains c
  match rest with
  | op :: letters =>
    if !"+-=".toList.contains op || !letters.all fun c => "rwxXstugo".toList.contains c then none
    else if letters.contains 'x' then some (op != '-')
    else if op == '=' then some false
    else some runs
  | [] => none

/-- What a mode does to the right to execute a file, if the mode makes sense. -/
def mode? (runs : Bool) (s : Letters) : Option Bool :=
  if !s.isEmpty && s.all fun c => '0' ≤ c && c ≤ '7' then
    let n := Letters.number 8 s
    if 0o7777 < n then none else some (n &&& 0o111 != 0)
  else (s.splitOn ',').foldlM clause? runs

end Chmod

/-! ## Making -/

/-- A complaint without an end, about a directory that is not made. -/
def notMade (path : Letters) : Letters := Letters.ofText "cannot create directory " ++ quote path

/-- Makes one directory. -/
def makeOne (verbose : Bool) (path : Letters) : Act Unit := do
  if ← changing (notMade path) (·.makeDir (Letters.bytes path)) then
    if verbose then
      say (Letters.ofText "mkdir: created directory " ++ quoteName path ++ ['\n'])

/-- Makes a directory with those above it that are missing. -/
def makeWithParents (verbose : Bool) (path : Letters) : Act Unit := do
  let fs : FileSystem ← ask .view
  let paths := (withParents (path.length + 1) path).reverse
  let isFileAt (p : Letters) : Bool :=
    match fs.lookup (Letters.bytes p) with
    | .ok .dir | .error _ => false
    | .ok _ => true
  match paths.find? isFileAt with
  | some p =>
    let e : HostError := if p == path then .alreadyThere else .notDirectory
    complain (because (notMade p) e)
  | none =>
    if path.isEmpty then makeOne verbose path
    else if verbose then
      (paths.filter fun p => !fs.exists? (Letters.bytes p)).forM (makeOne true)
    else
      let _ ← changing (notMade path) (·.makeDirs (Letters.bytes path))

/-- Makes directories. -/
def mkdir : Program := program fun args => do
  let table : OptionTable := {
    letters := [('m', .needed), ('p', .none), ('v', .none), ('Z', .none)]
    words := [("mode", .needed, 'm'), ("parents", .none, 'p'), ("verbose", .none, 'v')] }
  let a ← table.sort args
  if a.operands.isEmpty then misused (Letters.ofText "missing operand")
  match a.last? 'm' with
  | some mode =>
    if (Chmod.mode? false mode).isNone then refuse (Letters.ofText "invalid mode " ++ quote mode)
  | none => pure ()
  a.operands.forM (if a.has 'p' then makeWithParents (a.has 'v') else makeOne (a.has 'v'))

/-- Makes files that are not there yet. -/
def touch : Program := program fun args => do
  let table : OptionTable := {
    letters := [('a', .none), ('c', .none), ('d', .needed), ('f', .none), ('h', .none),
      ('m', .none), ('r', .needed), ('t', .needed)]
    words := [("no-create", .none, 'c'), ("date", .needed, 'd'), ("reference", .needed, 'r'),
      ("time", .needed, 'T')] }
  let a ← table.sort args
  if a.operands.isEmpty then misused (Letters.ofText "missing file operand")
  a.operands.forM fun path => do
    let fs : FileSystem ← ask .view
    let p := Letters.bytes path
    match fs.lookup p with
    | .ok _ => return
    | .error e =>
      if a.has 'c' then return
      else if FileSystem.endsInSlash p then
        complain (because (Letters.ofText "setting times of " ++ quoteName path) e)
      else if e != .missing || path.isEmpty then complain (because (cannot "cannot touch" path) e)
      else
        let _ ← changing (cannot "cannot touch" path) (·.write p [])

/-! ## Programs -/

namespace Chmod

/-- The places at and below a place. -/
def placesBelow (fs : FileSystem) (spot : Place) : List Place :=
  (fs.entries.map (·.1)).filter spot.isPrefixOf

/-- Changes whether the files at some places may be executed. -/
def set (mode : Letters) (spots : List Place) (fs : FileSystem) : FileSystem :=
  spots.foldl (fun fs spot =>
    let runs := (mode? (fs.runnable.contains spot) mode).getD false
    let others := fs.runnable.filter (· != spot)
    { fs with runnable := if runs then spot :: others else others }) fs

end Chmod

/-- Changes whether files may be executed. -/
def chmod : Program := program fun args => do
  let isMode (s : Letters) : Bool :=
    s.head? == some '-' && 1 < s.length && (Chmod.mode? false s).isSome
  let table : OptionTable := {
    letters := "Rcfv".toList.map (·, .none)
    words := [("recursive", .none, 'R'), ("changes", .none, 'c'), ("silent", .none, 'f'),
      ("quiet", .none, 'f'), ("verbose", .none, 'v')] }
  let a ← table.sort (args.filter fun s => !isMode s)
  match args.filter isMode ++ a.operands with
  | [] => misused (Letters.ofText "missing operand")
  | [mode] => misused (Letters.ofText "missing operand after " ++ quote mode)
  | mode :: paths =>
    if (Chmod.mode? false mode).isNone then misused (Letters.ofText "invalid mode: " ++ quote mode)
    paths.forM fun path => do
      let fs : FileSystem ← ask .view
      let p := Letters.bytes path
      match fs.lookup p, fs.locate p with
      | .error e, _ | _, .error e => complain (because (cannot "cannot access" path) e)
      | .ok _, .ok spot =>
        let spots := if a.has 'R' then Chmod.placesBelow fs spot else [spot]
        let _ ← changing (cannot "changing permissions of" path) fun fs =>
          (.ok (), Chmod.set mode spots fs)

end LintDispatch.Utility
