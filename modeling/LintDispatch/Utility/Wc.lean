import LintDispatch.Utility.Options

/-!
# Counting
The lines, words, characters and bytes of files, and how wide the widest line is, in columns that are
as wide as the sizes of the files need. The files are named by operands, or in another file.
-/

namespace LintDispatch.Utility

open LintDispatch.Machine

namespace Counts

/-- What has been counted. -/
structure Tally where
  lines : Nat := 0
  words : Nat := 0
  chars : Nat := 0
  letters : Nat := 0
  /-- The width of the widest line, and of the current one. -/
  widest : Nat := 0
  width : Nat := 0
  inWord : Bool := false
  /-- The beginning of a character whose rest has not been read. -/
  begun : Letters := []
  deriving DecidableEq, Repr, Inhabited

/-- A word has ended, if there was one. -/
def Tally.part (t : Tally) : Tally :=
  { t with words := if t.inWord then t.words + 1 else t.words, inWord := false }

/-- Counts one more character. One that cannot be seen begins no word and has no width. -/
def Tally.addChar (t : Tally) (code : Nat) : Tally :=
  let t := { t with chars := t.chars + 1 }
  if code == 0x0A || code == 0x0D || code == 0x0C then
    { t with
      lines := if code == 0x0A then t.lines + 1 else t.lines
      widest := max t.widest t.width, width := 0 }.part
  else if code == 0x09 then { t with width := t.width + 8 - t.width % 8 }.part
  else if code == 0x0B then t.part
  else if !Text.isSeen code then t
  else
    let t := { t with width := t.width + Text.columns code }
    if Text.partsWords code then t.part else { t with inWord := true }

/-- Counts one more glyph. -/
def Tally.addGlyph (t : Tally) (g : Glyph) : Tally :=
  match g.sight with
  | .char code => { t with letters := t.letters + g.letters.length }.addChar code
  | .stray => { t with letters := t.letters + g.letters.length }
  | .unfinished => { t with begun := g.letters }

/-- Counts what is in one more block. -/
def Tally.add (t : Tally) (block : Letters) : Tally :=
  foldGlyphs Tally.addGlyph { t with begun := [] } (t.begun ++ block)

/-- The tally with its last line and its last word closed. -/
def Tally.closed (t : Tally) : Tally :=
  { t with
    letters := t.letters + t.begun.length, begun := []
    widest := max t.widest t.width }.part

/-- The tally of two files. -/
def Tally.plus (t u : Tally) : Tally where
  lines := t.lines + u.lines
  words := t.words + u.words
  chars := t.chars + u.chars
  letters := t.letters + u.letters
  widest := max t.widest u.widest

/-- The counts that some letters ask for, in the order in which they are shown. -/
def Tally.shown (asked : List Char) (t : Tally) : List Nat :=
  (if asked.contains 'l' then [t.lines] else []) ++
  (if asked.contains 'w' then [t.words] else []) ++
  (if asked.contains 'm' then [t.chars] else []) ++
  (if asked.contains 'c' then [t.letters] else []) ++
  (if asked.contains 'L' then [t.widest] else [])

/-- A row of numbers, and the name of a file after them. A name of several lines is shown in
quotes. -/
def row (width : Nat) (ns : List Nat) (name : Option Letters) : Letters :=
  let padded (n : Nat) : Letters :=
    let d := Letters.ofNat n
    List.replicate (width - d.length) ' ' ++ d
  let shown (name : Letters) : Letters :=
    ' ' :: if name.contains '\n' then quoteIfNeeded name else name
  [' '].intercalate (ns.map padded) ++ ((name.map shown).getD []) ++ ['\n']

/-- The size of what an operand names, and whether it is a file; nothing if there is nothing. -/
def sizeOf? (path : Letters) : Act (Option (Nat × Bool)) := do
  if isInput path then
    match ← ask (.position 0) with
    | .ok (_, size) => return some (size, true)
    | .error .badDescriptor => return none
    | .error _ => return some (0, false)
  else
    match (← ask .view).lookup (Letters.bytes path) with
    | .ok (.file c) => return some (c.length, true)
    | .ok _ => return some (0, false)
    | .error _ => return none

/-- How wide the columns are: as the sum of the sizes, and wide if there is something that has no
size. They are narrow if there is nothing where the first operand should be. -/
def widthFor (sizes : List (Option (Nat × Bool))) : Nat :=
  match sizes with
  | some _ :: _ =>
    let known := sizes.filterMap id
    let total := ((known.filter (·.2)).map (·.1)).foldl (· + ·) 0
    max (Letters.ofNat total).length (if known.all (·.2) then 1 else 7)
  | _ => 1

/-- Writes to the standard output. Why that fails is only said if it is not open. -/
def sayCounts (s : Letters) : Act Unit :=
  sayOr (fun e =>
    let what := Letters.ofText "write error"
    if e == .badDescriptor then because what e else what) s

/-- What is to be counted, and how it is shown. -/
structure Wanted where
  asked : List Char := []
  /-- The file that names the files. -/
  list : Option Letters := none
  deriving Inhabited

/-- How much of a file's size has to be read before one can be sure of it. -/
def certain : Nat := 4096

/-- How many letters are still to be read, if the size of the file tells. -/
def rest? (d : Nat) : Act (Option Nat) := do
  match ← ask (.position d) with
  | .ok (offset, size) => return if size % certain == 0 then none else some (size - offset)
  | .error _ => return none

/-- Counts what a descriptor leads to. -/
def countOpen (asked : List Char) (d : Nat) : Act (Tally × Option HostError) := do
  let known ← if asked.all (· == 'c') then rest? d else pure none
  match known with
  | some n => return ({ letters := n }, none)
  | none =>
    let (t, fault) ← eachBlock d 65536 (fun t block => return (t.add block, true)) Job.rounds
      ({} : Tally)
    return (t.closed, fault)

/-- Counts what is in a file. `name` is its name, if it has been given one. -/
def countFile (width : Nat) (asked : List Char) (name : Option Letters) : Act Tally := do
  let path := name.getD ['-']
  match ← openInput path with
  | .error e =>
    complain (because (quoteIfNeeded path) e)
    return {}
  | .ok d =>
    let (t, fault) ← countOpen asked d
    match fault with
    | some e => complain (because (quoteIfNeeded (name.getD (Letters.ofText "standard input"))) e)
    | none => pure ()
    closeInput path d
    sayCounts (row width (t.shown asked) name)
    return t

/-- Counts what is in each of some files, and in all together if there are several. -/
def countFiles (width : Nat) (asked : List Char) (names : List Letters)
    (badName : Nat → Letters → Act Bool) : Act Unit := do
  let mut sum : Tally := {}
  for (name, k) in names.zipIdx 1 do
    if !(← badName k name) then sum := sum.plus (← countFile width asked (some name))
  if 1 < names.length then sayCounts (row width (sum.shown asked) (some (Letters.ofText "total")))

/-- The options. -/
def options : OptionTable where
  letters := "clLmw".toList.map (·, .none)
  words := [("bytes", .none, 'c'), ("chars", .none, 'm'), ("lines", .none, 'l'),
    ("words", .none, 'w'), ("debug", .none, 'd'), ("files0-from", .needed, 'F'),
    ("max-line-length", .none, 'L')]

/-- What the options ask for. -/
def withOption (w : Wanted) (o : Char × Letters) : Act Wanted := do
  match o.1 with
  | 'F' => return { w with list := some o.2 }
  | 'd' => return w
  | c => return { w with asked := c :: w.asked }

/-- The names in a text, each of which ends with a null letter; the last one need not. -/
def namesIn (s : Letters) : List Letters :=
  let (name, done) := s.foldl (fun (name, done) c =>
    if c == Char.ofNat 0 then ([], name.reverse :: done) else (c :: name, done))
    (([] : Letters), ([] : List Letters))
  (if name.isEmpty then done else name.reverse :: done).reverse

/-- A name that no file has. `list` is the file that it comes from. -/
def isBadName (list : Option Letters) (k : Nat) (name : Letters) : Act Bool := do
  if name.isEmpty then
    let place := match list with
      | some list => quoteIfNeeded list ++ ':' :: Letters.ofNat k ++ Letters.ofText ": "
      | none => []
    complain (place ++ Letters.ofText "invalid zero-length file name")
    return true
  else if list == some ['-'] && isInput name then
    complain (Letters.ofText "when reading file names from stdin, no file name of " ++
      quoteName name ++ Letters.ofText " allowed")
    return true
  else return false

/-- The width of the columns for some files. -/
def widthOf (asked : List Char) (names : List Letters) : Act Nat := do
  if names.length == 1 && (({} : Tally).shown asked).length == 1 then return 1
  else return widthFor (← names.mapM sizeOf?)

/-- Counts what is in the files that another file names. -/
def countListed (asked : List Char) (list : Letters) : Act Unit := do
  match ← openInput list with
  | .error e =>
    refuse (because (Letters.ofText "cannot open " ++ quoteName list ++
      Letters.ofText " for reading") e)
  | .ok d =>
    let isFile := (← ask (.position d)) matches .ok _
    let (s, fault) ← readAll d Job.rounds []
    let names := namesIn s
    let width ← if isFile then widthOf asked names else pure 1
    closeInput list d
    countFiles width asked names (isBadName (some list))
    match fault with
    | some e => complain (because (quoteIfNeeded list ++ Letters.ofText ": read error") e)
    | none => pure ()

end Counts

open Counts in
/-- Counts lines, words, characters and bytes. -/
def wc : Program := program fun args => do
  let (w, operands) ← options.process args {} withOption
  let asked := if w.asked.isEmpty then ['l', 'w', 'c'] else w.asked
  match w.list, operands with
  | some _, extra :: _ =>
    warn (Letters.ofText "extra operand " ++ quoteName extra)
    let more := Letters.ofText "file operands cannot be combined with --files0-from\n"
    let _ ← writeAll 2 more.length more
    suggestHelp
  | some list, [] => countListed asked list
  | none, [] =>
    let _ ← countFile (← widthOf asked [['-']]) asked none
    closeStandardInput "-" (inputs [])
  | none, names =>
    countFiles (← widthOf asked names) asked names (isBadName none)
    closeStandardInput "-" names

end LintDispatch.Utility
