import LintDispatch.Utility.Options

/-!
# Concatenation
Files are copied one after the other, with their lines numbered or their letters made visible if
that is asked for.
-/

namespace LintDispatch.Utility

open LintDispatch.Machine

namespace Cat

/-- How text is copied. -/
structure Style where
  /-- All lines get a number, or only those that are not empty. -/
  number : Bool := false
  numberFilled : Bool := false
  /-- Of several empty lines only one is kept. -/
  squeeze : Bool := false
  showEnds : Bool := false
  showTabs : Bool := false
  showAll : Bool := false
  deriving DecidableEq, Repr, Inhabited

/-- Nothing is changed. -/
def Style.isPlain (s : Style) : Bool := decide (s = {})

/-- The style that some options ask for. -/
def Style.ofOptions (a : Arguments) : Style :=
  let any (cs : List Char) : Bool := cs.any a.has
  { number := a.has 'n' && !a.has 'b'
    numberFilled := a.has 'b'
    squeeze := a.has 's'
    showEnds := any ['A', 'e', 'E']
    showTabs := any ['A', 't', 'T']
    showAll := any ['A', 'e', 't', 'v'] }

/-- What is known while text is copied: the number of the last line, whether a line begins here, how
many empty lines came before, and whether a carriage return has been held back. -/
structure Place where
  line : Nat := 0
  begins : Bool := true
  empty : Nat := 0
  held : Bool := false
  deriving Inhabited

/-- A letter that can be seen. -/
def visible (style : Style) (c : Char) : Letters :=
  let n := c.toNat
  if c == '\t' then if style.showTabs then ['^', 'I'] else ['\t']
  else if !style.showAll then [c]
  else if n < 32 then ['^', Char.ofNat (n + 64)]
  else if n < 127 then [c]
  else if n == 127 then ['^', '?']
  else if n < 160 then ['M', '-', '^', Char.ofNat (n - 64)]
  else if n < 255 then ['M', '-', Char.ofNat (n - 128)]
  else ['M', '-', '^', '?']

/-- The number of a line, as it stands in front of it. -/
def lineNumber (n : Nat) : Letters :=
  let digits := Letters.ofNat n
  List.replicate (6 - digits.length) ' ' ++ digits ++ ['\t']

/-- Copies one letter; the copy is collected in reverse. Where the ends of lines are shown, a carriage
return is held back until it is known whether it belongs to one. -/
def copyLetter (style : Style) (s : Place × Letters) (c : Char) : Place × Letters :=
  let (p, out) := s
  if c == '\n' then
    let empty := if p.begins then p.empty + 1 else 0
    if p.begins && style.squeeze && 1 < empty then ({ p with empty := empty }, out)
    else
      let numbered := p.begins && style.number
      let line := if numbered then p.line + 1 else p.line
      let lead := if numbered then lineNumber line else []
      let shownReturn : Letters := if p.held then ['^', 'M'] else []
      let tail := (if style.showEnds then shownReturn ++ ['$'] else []) ++ ['\n']
      (⟨line, true, empty, false⟩, (lead ++ tail).reverse ++ out)
  else
    let numbered := p.begins && (style.number || style.numberFilled)
    let line := if numbered then p.line + 1 else p.line
    let lead := (if p.held then ['\r'] else []) ++ (if numbered then lineNumber line else [])
    let holds := c == '\r' && style.showEnds && !style.showAll
    let shown := if holds then [] else visible style c
    (⟨line, false, 0, holds⟩, (lead ++ shown).reverse ++ out)

/-- Copies a block. -/
def copyBlock (style : Style) (p : Place) (block : Letters) : Place × Letters :=
  if style.isPlain then (p, block)
  else
    let (p, out) := block.foldl (copyLetter style) (p, [])
    (p, out.reverse)

/-- Copying a file to itself would never end. -/
def isOutput (d : Nat) : Act Bool := do
  match ← ask (.position d), ← ask (.sameFile d 1) with
  | .ok (offset, size), true => return offset < size
  | _, _ => return false

/-- Copies a file. -/
def copyFile (style : Style) (p : Place) (path : Letters) : Act Place := do
  match ← openInput path with
  | .error e =>
    complain (because (quoteIfNeeded path) e)
    return p
  | .ok d =>
    let (p, fault) ← if ← isOutput d then do
        complain (quoteIfNeeded path ++ Letters.ofText ": input file is output file")
        pure (p, none)
      else
        eachBlock d 131072 (fun p block => do
          let (p, out) := copyBlock style p block
          say out
          return (p, true)) Job.rounds p
    match fault with
    | some e => complain (because (quoteIfNeeded path) e)
    | none => pure ()
    closeInput path d
    return p

/-- The options. -/
def options : OptionTable where
  letters := "AbeEnstTuv".toList.map (·, .none)
  words := [("number-nonblank", .none, 'b'), ("number", .none, 'n'), ("squeeze-blank", .none, 's'),
    ("show-nonprinting", .none, 'v'), ("show-ends", .none, 'E'), ("show-tabs", .none, 'T'),
    ("show-all", .none, 'A')]

end Cat

/-- Copies files one after the other. -/
def cat : Program := program fun args => do
  let a ← Cat.options.sort args
  match ← ask (.position 1) with
  | .error .badDescriptor => refuse (because (Letters.ofText "standard output") .badDescriptor)
  | _ => pure ()
  let paths := inputs a.operands
  let p ← paths.foldlM (Cat.copyFile (Cat.Style.ofOptions a)) {}
  if p.held then say ['\r']
  closeStandardInput "closing standard input" paths

end LintDispatch.Utility
