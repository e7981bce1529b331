import LintDispatch.Utility.Files

/-!
# Copying, moving and listing files
A file can be copied or moved to another path or into a directory, and directories can be listed.
-/

namespace LintDispatch.Utility

open LintDispatch.Machine

/-- The last name in a path. -/
def lastName (path : Letters) : Letters :=
  let s := (path.reverse.dropWhile (· == '/')).reverse
  if s.isEmpty then path.take 1 else (s.reverse.takeWhile (· != '/')).reverse

/-- A file or directory that is copied or moved, and where it goes. -/
structure Transfer where
  source : Letters
  target : Letters
  deriving Inhabited

/-- The transfers into a directory that an option names. -/
def transfersInto (dir : Letters) (sources : List Letters) : Act (List Transfer) := do
  if sources.isEmpty then misused (Letters.ofText "missing file operand")
  match (← ask .view).lookup (Letters.bytes dir) with
  | .ok .dir => return sources.map fun s => ⟨s, Rm.below dir (lastName s)⟩
  | .ok _ => refuse (because (Letters.ofText "target directory " ++ quoteName dir) .notDirectory)
  | .error e => refuse (because (Letters.ofText "target directory " ++ quoteName dir) e)

/-- The transfers that operands ask for; several files, or one if there is a directory for it, go
into a directory. -/
def transfersOf (apart : Bool) (operands : List Letters) : Act (List Transfer) := do
  match operands with
  | [] => misused (Letters.ofText "missing file operand")
  | [s] => misused (Letters.ofText "missing destination file operand after " ++ quoteName s)
  | _ =>
    let sources := operands.dropLast
    let target := operands.getLastD []
    let fs : FileSystem ← ask .view
    if !apart && fs.isDir (Letters.bytes target) then
      return sources.map fun s => ⟨s, Rm.below target (lastName s)⟩
    else if sources.length == 1 then return sources.map fun s => ⟨s, target⟩
    else if apart then misused (Letters.ofText "extra operand " ++ quoteName target)
    else
      let e := match fs.lookup (Letters.bytes target) with
        | .error e => e
        | .ok _ => .notDirectory
      refuse (because (Letters.ofText "target " ++ quoteName target) e)

/-- The transfers that arguments ask for. -/
def transfers (a : Arguments) : Act (List Transfer) :=
  match a.last? 't' with
  | some dir => transfersInto dir a.operands
  | none => transfersOf (a.has 'T') a.operands

/-- A source and a target in quotes with something between them. -/
def pair (t : Transfer) (between : String) : Letters :=
  quoteName t.source ++ Letters.ofText between ++ quoteName t.target

/-- Tells of a transfer. -/
def reportTransfer (what : String) (t : Transfer) : Act Unit :=
  say (Letters.ofText what ++ pair t " -> " ++ ['\n'])

/-- Something is already where a transfer goes. -/
def isTaken (t : Transfer) : Act Bool := do
  let fs : FileSystem ← ask .view
  return fs.exists? (Letters.bytes t.target)

/-- There is nothing that a transfer could take. -/
def isImpossible (t : Transfer) : Act Bool := do
  let fs : FileSystem ← ask .view
  return !fs.exists? (Letters.bytes t.source)

namespace Cp

/-- Copies a file to a path. -/
def copyFile (t : Transfer) (spot : Place) (content : Bytes) (fs : FileSystem) :
    Except HostError Unit × FileSystem :=
  let p := Letters.bytes t.target
  if t.target.isEmpty then (.error .missing, fs)
  else if FileSystem.endsInSlash p && !fs.exists? p then (.error .notDirectory, fs)
  else
    let isNew := !fs.exists? p
    match fs.write p content with
    | (.error e, fs) => (.error e, fs)
    | (.ok (), fs) =>
      match fs.locate p with
      | .ok target =>
        (.ok (), if isNew && fs.runnable.contains spot then
            { fs with runnable := target :: fs.runnable }
          else fs)
      | .error _ => (.ok (), fs)

/-- Copies what is at a place. -/
def copyTo (verbose recursive : Bool) (t : Transfer) : Act Unit := do
  let fs : FileSystem ← ask .view
  let source := Letters.bytes t.source
  let target := Letters.bytes t.target
  match fs.lookup source, fs.locate source with
  | .error e, _ | _, .error e => complain (because (cannot "cannot stat" t.source) e)
  | .ok .dir, .ok spot =>
    if !recursive then
      complain (Letters.ofText "-r not specified; omitting directory " ++ quoteName t.source)
    else
      match fs.lookup target, fs.locate (FileSystem.withoutEndSlashes target) with
      | _, .error e => complain (because (cannot "cannot create directory" t.target) e)
      | there, .ok place =>
        if (there matches .ok (.file _) | .ok (.device _)) then
          complain (Letters.ofText "cannot overwrite non-directory " ++ quoteName t.target ++
            Letters.ofText " with directory " ++ quoteName t.source)
        else if spot.isPrefixOf place then
          complain (Letters.ofText "cannot copy a directory, " ++ pair t ", into itself, ")
        else
          let _ ← changing [] fun fs => (.ok (), fs.copyTree spot place)
          if verbose then reportTransfer "" t
  | .ok _, .ok spot =>
    if (fs.locate target).toOption == some spot then
      complain (pair t " and " ++ Letters.ofText " are the same file")
    else
      let content := ((fs.read source).toOption).getD []
      if fs.isDir target then
        complain (Letters.ofText "cannot overwrite directory " ++ quoteName t.target ++
          Letters.ofText " with non-directory")
      else if fs.exists? (FileSystem.withoutEndSlashes target) && !fs.exists? target then
        complain (because (cannot "cannot stat" t.target) .notDirectory)
      else if ← changing (cannot "cannot create regular file" t.target) (copyFile t spot content) then
        if verbose then reportTransfer "" t

/-- The options. -/
def options : OptionTable where
  letters := "abdfHilLnpPrRsTuvx".toList.map (·, .none) ++ [('S', .needed), ('t', .needed)]
  words := [("archive", .none, 'a'), ("force", .none, 'f'), ("recursive", .none, 'r'),
    ("verbose", .none, 'v'), ("no-clobber", .none, 'n'), ("no-target-directory", .none, 'T'),
    ("target-directory", .needed, 't'), ("preserve", .allowed, 'p')]

end Cp

/-- Copies files. -/
def cp : Program := program fun args => do
  let a ← Cp.options.sort args
  let ts ← transfers a
  let keeps := a.lastOf? ['i', 'n'] == some 'n'
  ts.forM fun t => do
    if (← isImpossible t) || !(keeps && (← isTaken t)) then
      Cp.copyTo (a.has 'v') (a.has 'r' || a.has 'R' || a.has 'a') t

namespace Mv

/-- Moves what is at a place. -/
def moveTo (verbose : Bool) (t : Transfer) : Act Unit := do
  let fs : FileSystem ← ask .view
  let source := Letters.bytes t.source
  let target := Letters.bytes t.target
  let failed (e : HostError) : Act Unit :=
    complain (because (Letters.ofText "cannot move " ++ pair t " to ") e)
  match fs.lookup source, fs.locate source with
  | .error e, _ | _, .error e => complain (because (cannot "cannot stat" t.source) e)
  | .ok node, .ok spot =>
    let isDirectory : Bool := node matches .dir
    let end' := if isDirectory then FileSystem.withoutEndSlashes target else target
    match fs.locate end' with
    | .error e => failed (if !isDirectory && FileSystem.endsInSlash target then .notDirectory else e)
    | .ok place =>
      let there := fs.node? place
      if place == spot then complain (pair t " and " ++ Letters.ofText " are the same file")
      else if isDirectory && spot.isPrefixOf place then
        complain (Letters.ofText "cannot move " ++ pair t " to a subdirectory of itself, ")
      else if isDirectory && (there matches some (.file _) | some (.device _)) then
        complain (Letters.ofText "cannot overwrite non-directory " ++ quoteName t.target ++
          Letters.ofText " with directory " ++ quoteName t.source)
      else if !isDirectory && (there matches some .dir) then
        complain (Letters.ofText "cannot overwrite directory " ++ quoteName t.target ++
          Letters.ofText " with non-directory")
      else if isDirectory && !(fs.names place).isEmpty then failed .notEmpty
      else if !isDirectory && FileSystem.endsInSlash target && there.isNone then
        failed .notDirectory
      else
        let _ ← changing [] fun fs => (.ok (), fs.moveTree spot place)
        if verbose then reportTransfer "renamed " t

/-- The options. -/
def options : OptionTable where
  letters := "bfinTuvZ".toList.map (·, .none) ++ [('S', .needed), ('t', .needed)]
  words := [("force", .none, 'f'), ("verbose", .none, 'v'), ("no-clobber", .none, 'n'),
    ("no-target-directory", .none, 'T'), ("target-directory", .needed, 't')]

end Mv

/-- Moves files. -/
def mv : Program := program fun args => do
  let a ← Mv.options.sort args
  let ts ← transfers a
  let keeps := a.lastOf? ['f', 'i', 'n'] == some 'n'
  ts.forM fun t => do
    if (← isImpossible t) || !(keeps && (← isTaken t)) then Mv.moveTo (a.has 'v') t

namespace Ls

/-- How files are listed. -/
structure Manner where
  all : Bool := false
  /-- Hidden names are listed, but for the dots. -/
  almostAll : Bool := false
  reversed : Bool := false
  /-- Directories are listed like files. -/
  directories : Bool := false
  marks : Bool := false
  slashes : Bool := false
  recursive : Bool := false
  deriving Inhabited

/-- A line for a file. -/
def line (m : Manner) (fs : FileSystem) (name : Letters) (spot : Place) : Letters :=
  let mark : Letters := match fs.node? spot with
    | some .dir => if m.marks || m.slashes then ['/'] else []
    | some (.file _) => if m.marks && fs.runnable.contains spot then ['*'] else []
    | _ => []
  name ++ mark ++ ['\n']

/-- Names in the order in which they are listed. -/
def ordered (m : Manner) (names : List Letters) : List Letters :=
  let names := names.mergeSort inOrder
  if m.reversed then names.reverse else names

/-- The lines of a directory. -/
def lines (m : Manner) (fs : FileSystem) (spot : Place) : Letters :=
  let names := (namesIn fs spot).filter fun n =>
    m.all || m.almostAll || n.head? != some '.'
  let dots := if m.all then [['.'], ['.', '.']] else []
  (ordered m (dots ++ names)).flatMap fun n =>
    let place := if n == ['.'] then spot else if n == ['.', '.'] then spot.dropLast
      else spot ++ [Letters.bytes n]
    line m fs n place

/-- The directories that are listed for one, each with its path. -/
def tree (m : Manner) (fs : FileSystem) : (fuel : Nat) → Letters → Place → List (Letters × Place)
  | 0, _, _ => []
  | fuel + 1, path, spot =>
    let below := if !m.recursive then [] else
      (ordered m (namesIn fs spot)).filter fun n =>
        (fs.node? (spot ++ [Letters.bytes n]) matches some .dir) &&
          (m.all || m.almostAll || n.head? != some '.')
    (path, spot) :: below.flatMap fun n =>
      tree m fs fuel (Rm.below path n) (spot ++ [Letters.bytes n])

/-- The manner that options ask for. -/
def mannerOf (a : Arguments) : Manner where
  all := a.has 'a'
  almostAll := a.has 'A'
  reversed := a.has 'r'
  directories := a.has 'd'
  marks := a.has 'F'
  slashes := a.has 'p'
  recursive := a.has 'R'

/-- The options. -/
def options : OptionTable where
  letters := "1aACdFpqrRUxfN".toList.map (·, .none)
  words := [("all", .none, 'a'), ("almost-all", .none, 'A'), ("directory", .none, 'd'),
    ("reverse", .none, 'r'), ("recursive", .none, 'R'), ("color", .allowed, 'N')]

end Ls

/-- Lists files. -/
def ls : Program := program fun args => do
  let a ← Ls.options.sort args 2
  let m := Ls.mannerOf a
  let fs : FileSystem ← ask .view
  let paths := if a.operands.isEmpty then [['.']] else a.operands
  let found ← paths.filterMapM fun path => do
    let p := Letters.bytes path
    match fs.lookup p, fs.locate p with
    | .error e, _ | _, .error e =>
      warn (because (cannot "cannot access" path) e)
      setStatus 2
      return none
    | .ok node, .ok spot => return some (path, node, spot)
  let isListed (n : Node) : Bool := !m.directories && n matches .dir
  let files := found.filter fun f => !isListed f.2.1
  let dirs := found.filter fun f => isListed f.2.1
  let spotOf (path : Letters) : Place := (((found.find? (·.1 == path)).map (·.2.2)).getD [])
  say ((Ls.ordered m (files.map (·.1))).flatMap fun path => Ls.line m fs path (spotOf path))
  let sections := (Ls.ordered m (dirs.map (·.1))).flatMap fun path =>
    Ls.tree m fs (fs.entries.length + 1) path (spotOf path)
  let titled := 1 < paths.length || m.recursive
  let texts := sections.map fun (path, spot) =>
    (if titled then path ++ [':', '\n'] else []) ++ Ls.lines m fs spot
  say ((if files.isEmpty || texts.isEmpty then [] else ['\n']) ++ ['\n'].intercalate texts)

end LintDispatch.Utility
