import LintDispatch.Utility.Options

/-!
# Portions of files
The beginning and the end of a file, in lines or in letters: so many of them, or all but so many. The
functions here cut a text and show what has been cut out of files, under a title if there are several.
-/

namespace LintDispatch.Utility

open LintDispatch.Machine

namespace Portion

/-- Where a portion is counted from. -/
inductive Side where
  | plain
  /-- From the other end: all but so many, or all from there on. -/
  | other
  deriving DecidableEq, Repr, Inhabited

/-- Which portion of a file is wanted. -/
structure Wanted where
  byLine : Bool := true
  count : Nat := 10
  side : Side := .plain
  /-- What ends a line. -/
  lineEnd : Char := '\n'
  /-- Whether the name of each file is shown, if that is not left to their number. -/
  titles : Option Bool := none
  deriving Repr, Inhabited

/-! ## Cutting -/

/-- The beginning of a text up to so many line ends, and how many line ends are missing. -/
def takeLines (lineEnd : Char) : (count : Nat) → Letters → List Char → Letters × Nat
  | 0, _, done => (done.reverse, 0)
  | count, [], done => (done.reverse, count)
  | count + 1, c :: s, done =>
    if c == lineEnd then takeLines lineEnd count s (c :: done)
    else takeLines lineEnd (count + 1) s (c :: done)

/-- The lines of a text, each with its end; the last one may have none. -/
def linesOf (lineEnd : Char) (s : Letters) : List Letters :=
  let (line, done) := s.foldl (fun (line, done) c =>
    if c == lineEnd then ([], (c :: line).reverse :: done) else (c :: line, done))
    (([] : Letters), ([] : List Letters))
  (if line.isEmpty then done else line.reverse :: done).reverse

/-- All but the last lines or letters. -/
def withoutEnd (w : Wanted) (s : Letters) : Letters :=
  if w.byLine then
    let ls := linesOf w.lineEnd s
    (ls.take (ls.length - w.count)).flatten
  else s.take (s.length - w.count)

/-- The last lines or letters, or those from some point on. -/
def ending (w : Wanted) (s : Letters) : Letters :=
  if w.byLine then
    let ls := linesOf w.lineEnd s
    match w.side with
    | .plain => (ls.drop (ls.length - w.count)).flatten
    | .other => (ls.drop (w.count - 1)).flatten
  else
    match w.side with
    | .plain => s.drop (s.length - w.count)
    | .other => s.drop (w.count - 1)

/-! ## Showing -/

/-- The name under which a file is shown. -/
def shownName (path : Letters) : Letters :=
  if isInput path then Letters.ofText "standard input" else path

/-- The title above the portion of a file. -/
def title (first : Bool) (path : Letters) : Letters :=
  (if first then [] else ['\n']) ++ Letters.ofText "==> " ++ shownName path ++
    Letters.ofText " <==\n"

/-- A complaint about a file that cannot be opened. -/
def unopened (path : Letters) (e : HostError) : Letters :=
  Letters.ofText "cannot open " ++ quoteName (shownName path) ++
    because (Letters.ofText " for reading") e

/-- A complaint about a file that cannot be read. Whoever `looks` at the file before reading it
finds out there that it is not open. -/
def unread (looks : Bool) (path : Letters) (e : HostError) : Letters :=
  let what := if looks && e == .badDescriptor then "cannot fstat " else "error reading "
  because (Letters.ofText what ++ quoteName (shownName path)) e

/-- What is at least so long is written at once. -/
def pageSize : Nat := 4096

/-- Writes a portion to the standard output. -/
def sayPortion (s : Letters) : Act Unit :=
  sayOr (because (if s.length < pageSize then Letters.ofText "write error"
    else Letters.ofText "error writing 'standard output'")) s

/-- A count in an argument. -/
def countOr (byLine : Bool) (s : Letters) : Act Nat :=
  numberOr (if byLine then "invalid number of lines" else "invalid number of bytes") true s

/-- The portion with an option that has nothing to do with counts. -/
def Wanted.withOption (w : Wanted) (c : Char) : Wanted :=
  match c with
  | 'q' => { w with titles := some false }
  | 'v' => { w with titles := some true }
  | 'z' => { w with lineEnd := Char.ofNat 0 }
  | _ => w

/-- Each file has its title. -/
def Wanted.titled (w : Wanted) (paths : List Letters) : Bool :=
  w.titles.getD (1 < paths.length)

end Portion

end LintDispatch.Utility
