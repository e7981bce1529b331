import LintDispatch.Utility.Portion

/-!
# The beginning of files
`head` shows the first lines or letters of each file, or all but the last. What it has read too far it
gives back, if the file has positions.
-/

namespace LintDispatch.Utility

open LintDispatch.Machine

namespace Head

open Portion

/-- Gives back what has been read too far, if that is possible. -/
def giveBack (d extra : Nat) : Act Unit := do
  if extra == 0 then return
  match ← ask (.position d) with
  | .ok (offset, _) =>
    let _ ← ask (.seek d (offset - extra))
  | .error _ => return

/-- Shows the first lines of what a descriptor leads to. -/
def showLines (w : Wanted) (d : Nat) : Act (Option HostError) := do
  if w.count == 0 then return none
  let (_, fault) ← eachBlock d blockSize (fun left block => do
    let (s, left) := takeLines w.lineEnd left block []
    if left == 0 then giveBack d (block.length - s.length)
    sayPortion s
    return (left, left != 0)) Job.rounds w.count
  return fault

/-- Shows the first letters of what a descriptor leads to. -/
def showLetters (d : Nat) : (rounds : Nat) → (left : Nat) → Act (Option HostError)
  | 0, _ => return none
  | rounds + 1, left => do
    if left == 0 then return none
    match ← ask (.read d false (min left blockSize)) with
    | .error e => return some e
    | .ok [] => return none
    | .ok s =>
      sayPortion s
      showLetters d rounds (left - s.length)

/-- Shows all but the last lines or letters, and gives those back. -/
def showWithoutEnd (w : Wanted) (d : Nat) : Act (Option HostError) := do
  let (s, fault) ← readAll d Job.rounds []
  let shown := withoutEnd w s
  sayPortion shown
  giveBack d (s.length - shown.length)
  return fault

/-- Shows the beginning of what a descriptor leads to. -/
def showOpen (w : Wanted) (d : Nat) : Act (Option HostError) :=
  match w.side, w.byLine with
  | .other, _ => showWithoutEnd w d
  | .plain, true => showLines w d
  | .plain, false => showLetters d Job.rounds w.count

/-- Shows the beginning of each file. -/
def showFiles (w : Wanted) (titled : Bool) : (first : Bool) → List Letters → Act Unit
  | _, [] => return
  | first, path :: paths => do
    match ← openInput path with
    | .error e =>
      complain (unopened path e)
      showFiles w titled first paths
    | .ok d =>
      if titled then say (title first path)
      match ← showOpen w d with
      | some e => complain (unread (w.side == .other) path e)
      | none => pure ()
      closeInput path d
      showFiles w titled false paths

/-- The portion with an option. A dash in front of a count stands for all but so many. -/
def withOption (w : Wanted) (o : Char × Letters) : Act Wanted := do
  let (c, arg) := o
  if c == 'c' || c == 'n' then
    let byLine := c == 'n'
    let (side, s) := if arg.head? == some '-' then (Side.other, arg.tail) else (.plain, arg)
    return { w with byLine := byLine, side := side, count := ← countOr byLine s }
  else if c.isDigit then misused (Letters.ofText "invalid trailing option -- " ++ [c])
  else return w.withOption c

/-- A first argument such as `-5c`: a count and letters. -/
def oldStyle (s : Letters) : Act Wanted := do
  let (digits, letters) := s.span Char.isDigit
  let step (s : Wanted × Letters) (c : Char) : Act (Wanted × Letters) := do
    let (w, factor) := s
    match c with
    | 'c' => return ({ w with byLine := false }, [])
    | 'b' | 'k' | 'm' => return ({ w with byLine := false }, [c])
    | 'l' => return ({ w with byLine := true }, factor)
    | 'q' | 'v' | 'z' => return (w.withOption c, factor)
    | c => misused (Letters.ofText "invalid trailing option -- " ++ [c])
  let (w, factor) ← letters.foldlM step ({}, [])
  return { w with count := ← countOr w.byLine (digits ++ factor) }

/-- The options. -/
def options : OptionTable where
  letters := [('c', .needed), ('n', .needed), ('q', .none), ('v', .none), ('z', .none)] ++
    "0123456789".toList.map (·, .none)
  words := [("bytes", .needed, 'c'), ("lines", .needed, 'n'), ("-presume-input-pipe", .none, 'p'),
    ("quiet", .none, 'q'), ("silent", .none, 'q'), ("verbose", .none, 'v'),
    ("zero-terminated", .none, 'z')]

/-- The greatest size of a file. -/
def maxSize : Nat := Nat.pow 2 63 - 1

end Head

open Portion Head in
/-- Shows the first part of each file. -/
def head : Program := program fun args => do
  let (w, args) ← match args with
    | ('-' :: d :: s) :: rest =>
      if d.isDigit then pure (← oldStyle (d :: s), rest) else pure (({} : Wanted), args)
    | _ => pure ({}, args)
  let (w, operands) ← Head.options.process args w Head.withOption
  if !w.byLine && w.side == .other && maxSize < w.count then
    refuseNumber "invalid number of bytes" (Letters.ofNat w.count) .tooLarge
  let paths := inputs operands
  Head.showFiles w (w.titled paths) true paths
  closeStandardInput "-" paths

end LintDispatch.Utility
