import LintDispatch.Decimal.Literal
import LintDispatch.Machine.Layout
import LintDispatch.Machine.Numeral
import LintDispatch.Utility.Options

/-!
# Formatted output
`printf` lays out its arguments in a format, which is used again as long as it takes arguments. What
comes out is written in the end, whatever goes wrong before.
-/

namespace LintDispatch.Utility

open LintDispatch.Machine

namespace Printf

/-- What is known while a format is carried out. -/
structure Printing where
  args : List Letters
  /-- What is to be written, the latest first. -/
  out : List Letters := []
  deriving Inhabited

/-- Something that is done while a format is carried out; it may put an end to everything. -/
abbrev Format := ExceptT Nat (StateT Printing Act)

/-- Writes a text in the end. -/
def put (s : Letters) : Format Unit := modify fun p => { p with out := s :: p.out }

/-- Puts an end to everything. -/
def fail {α : Type} (text : Letters) : Format α := do
  let _ ← (liftM (warn text) : Format Unit)
  throw 1

/-- Says that something is wrong with an argument. -/
def fault (text : Letters) : Format Unit := do
  let _ ← (liftM (complain text) : Format Unit)

/-- The next argument, if there is one. -/
def next? : Format (Option Letters) := do
  match (← get).args with
  | [] => return none
  | a :: args =>
    modify fun p => { p with args := args }
    return some a

/-- Says what is wrong with a number, if something is. -/
def check (s rest : Letters) (found fits : Bool) : Format Unit := do
  if !fits then fault (quote s ++ Letters.ofText ": Numerical result out of range")
  else if !rest.isEmpty then
    fault (quote s ++ Letters.ofText (if found then ": value not completely converted"
      else ": expected a numeric value"))

/-- The code of the character after a quote; a letter that spells none stands for itself. -/
def quotedCode? (s : Letters) : Format (Option Nat) := do
  match s with
  | q :: c :: rest =>
    if q != '\'' && q != '"' then return none
    else
      let g := Glyph.first c rest
      let (code, rest) := match g.sight with
        | .char code => (code, rest.drop (g.letters.length - 1))
        | _ => (c.toNat, rest)
      if !rest.isEmpty then
        let _ ← (liftM (warn (Letters.ofText "warning: " ++ rest ++ Letters.ofText
          ": character(s) following character constant have been ignored")) : Format Unit)
      return some code
  | _ => return none

/-- A whole number. -/
def signed (s : Letters) : Format Int := do
  match ← quotedCode? s with
  | some n => return n
  | none =>
    let n := Numeral.read false s
    check s n.rest n.found n.fits
    return n.clamped

/-- A whole number without a sign. -/
def unsigned (s : Letters) : Format Nat := do
  match ← quotedCode? s with
  | some n => return n
  | none =>
    let n := Numeral.read false s
    let fits := n.value.natAbs ≤ Numeral.maxUnsigned
    check s n.rest n.found fits
    return if fits then (n.value % Int.pow 2 64).toNat else Numeral.maxUnsigned

/-- A number that may have a fraction. -/
def fraction (s : Letters) : Format Decimal.Literal := do
  match ← quotedCode? s with
  | some n => return ⟨false, .finite n 1⟩
  | none =>
    match Decimal.Literal.read? Letters.isSpace s with
    | none =>
      check s s false true
      return ⟨false, .finite 0 1⟩
    | some (x, rest) =>
      let rounded := Decimal.Precision.extended.round x.magnitude
      let fits := match x.magnitude, rounded with
        | .infinite, _ => !s.any Char.isDigit
        | .finite a _, .finite b _ => a == 0 || b != 0
        | .finite _ _, _ => false
        | .none, _ => true
      check s rest true fits
      return ⟨x.negative, rounded⟩

/-! ## Escapes -/

/-- The character of an escape of one letter. -/
def escape? : Char → Option Char
  | '"' => some '"'
  | '\\' => some '\\'
  | 'a' => some '\x07'
  | 'b' => some '\x08'
  | 'e' => some '\x1b'
  | 'f' => some '\x0c'
  | 'n' => some '\n'
  | 'r' => some '\r'
  | 't' => some '\t'
  | 'v' => some '\x0b'
  | _ => none

/-- An octal digit. -/
def isOctal (c : Char) : Bool := '0' ≤ c && c ≤ '7'

/-- A hexadecimal digit. -/
def isHex (c : Char) : Bool := Letters.digit c.toLower < 16

/-- The character of a number of several digits. -/
def charOf (base : Nat) (digits : Letters) : Char :=
  Char.ofNat (Letters.number base (digits.map Char.toLower) % 256)

/-- What is written for a character by its number, in digits of base sixteen. -/
def numbered (letter : Char) (digits : Letters) : Format Unit := do
  let n := Letters.number 16 (digits.map Char.toLower)
  if (n ≤ 0x9F && n != 0x24 && n != 0x40 && n != 0x60) || (0xD800 ≤ n && n ≤ 0xDFFF) then
    fail (Letters.ofText "invalid universal character name \\" ++ letter ::
      digits.map Char.toLower)
  else if 0x10FFFF < n then put ('\\' :: 'U' :: digits.map Char.toUpper)
  else put (Letters.ofText (String.singleton (Char.ofNat n)))

/-- Writes the escape after a backslash, and goes on after it. In an argument octal digits may start
with one more zero. -/
def escape (inArgument : Bool) (s : Letters) : Format Letters := do
  match s with
  | [] =>
    put ['\\']
    return []
  | c :: rest =>
    if c == 'x' then
      let digits := (rest.take 2).takeWhile isHex
      if digits.isEmpty then fail (Letters.ofText "missing hexadecimal number in escape")
      put [charOf 16 digits]
      return rest.drop digits.length
    else if isOctal c then
      let body := if inArgument && c == '0' then rest else s
      let digits := (body.take 3).takeWhile isOctal
      put [charOf 8 digits]
      return body.drop digits.length
    else if c == 'c' then throw 0
    else if c == 'u' || c == 'U' then
      let digits := rest.take (if c == 'u' then 4 else 8)
      if digits.length < (if c == 'u' then 4 else 8) || !digits.all isHex then
        fail (Letters.ofText "missing hexadecimal number in escape")
      numbered c digits
      return rest.drop digits.length
    else
      match escape? c with
      | some e => put [e]
      | none => put ['\\', c]
      return rest

/-- Writes a text with its escapes replaced. -/
def escaped : (fuel : Nat) → Letters → Format Unit
  | 0, _ | _, [] => return
  | fuel + 1, '\\' :: s => do escaped fuel (← escape true s)
  | fuel + 1, c :: s => do
    put [c]
    escaped fuel s

/-! ## Directives -/

/-- A directive with the letters for which it makes no sense. -/
structure Directive where
  layout : Layout := {}
  excluded : List Char := []
  deriving Inhabited

/-- The letters that a flag does not go with. -/
def excludedBy (c : Char) : List Char :=
  match c with
  | 'I' | '\'' => "aAceEosxX".toList
  | '#' => "cdisu".toList
  | '0' => "cs".toList
  | _ => []

/-- The flags in front of a directive. -/
def flags (d : Directive) : Letters → Directive × Letters
  | [] => (d, [])
  | c :: s =>
    if "-+ #0I'".toList.contains c then
      flags { layout := d.layout.withFlag c, excluded := excludedBy c ++ d.excluded } s
    else (d, c :: s)

/-- The greatest width or precision. -/
def maxCount : Nat := Nat.pow 2 31 - 1

/-- The number in front of a directive, spelled out or taken from the arguments. -/
def count (what : String) (s : Letters) : Format (Option Int × Letters) := do
  match s with
  | '*' :: rest =>
    match ← next? with
    | none => return (some 0, rest)
    | some a =>
      let n ← signed a
      if (maxCount : Int) < n || (what == "field width" && n < -(maxCount : Int) - 1) then
        fail (Letters.ofText ("invalid " ++ what ++ ": ") ++ quote a)
      return (some n, rest)
  | s =>
    let (digits, rest) := s.span Char.isDigit
    return (if digits.isEmpty then none else some (Letters.number 10 digits : Nat), rest)

/-- Reads what stands between the percent sign and the letter of a directive. -/
def directive (s : Letters) : Format (Directive × Letters) := do
  let (d, s) := flags {} s
  let (width, s) ← count "field width" s
  let d := { d with layout := d.layout.withWidth (width.getD 0) }
  let isSize (c : Char) : Bool := "lLhjtz".toList.contains c
  match s with
  | '.' :: s =>
    let (precision, s) ← count "precision" s
    return ({ layout := d.layout.withPrecision (precision.getD 0), excluded := 'c' :: d.excluded },
      s.dropWhile isSize)
  | s => return (d, s.dropWhile isSize)

/-- Carries out a directive with the next argument. -/
def carryOut (l : Layout) (letter : Char) : Format Unit := do
  let a := (← next?).getD []
  match letter with
  | 's' => put (l.text a)
  | 'c' => put (l.fill [a.headD (Char.ofNat 0)])
  | 'd' | 'i' => put (l.signed (← signed a))
  | 'o' | 'u' | 'x' | 'X' => put (l.unsigned letter (← unsigned a))
  | c => put (l.fraction 4 c (← fraction a))

/-- Carries out a format once. -/
def pass : (fuel : Nat) → Letters → Format Unit
  | 0, _ | _, [] => return
  | fuel + 1, '\\' :: s => do pass fuel (← escape false s)
  | fuel + 1, '%' :: '%' :: s => do
    put ['%']
    pass fuel s
  | fuel + 1, '%' :: 'b' :: s => do
    let a := (← next?).getD []
    escaped a.length a
    pass fuel s
  | fuel + 1, '%' :: 'q' :: s => do
    match ← next? with
    | some a => put (if a.isEmpty then ['\'', '\''] else quoteForShell a)
    | none => pure ()
    pass fuel s
  | fuel + 1, '%' :: s => do
    let (d, rest) ← directive s
    let known := (rest.head?.map "aAcdeEfFgGiosuxX".toList.contains).getD false
    let letter := rest.headD ' '
    if !known || d.excluded.contains letter then
      fail ('%' :: s.take (s.length - rest.tail.length) ++
        Letters.ofText ": invalid conversion specification")
    carryOut d.layout letter
    pass fuel rest.tail
  | fuel + 1, c :: s => do
    let (t, rest) := s.span fun c => c != '\\' && c != '%'
    put (c :: t)
    pass fuel rest

/-- Carries out a format as long as there are arguments and it takes some. -/
def passes (format : Letters) : (rounds : Nat) → Format Unit
  | 0 => return
  | rounds + 1 => do
    let before := (← get).args.length
    pass (format.length + 1) format
    match (← get).args with
    | [] => return
    | a :: args =>
      if args.length + 1 == before then
        let _ ← (liftM (warn (Letters.ofText
          "warning: ignoring excess arguments, starting with " ++ quote a)) : Format Unit)
      else passes format rounds

end Printf

/-- Lays out arguments in a format. -/
def printf : Program := program fun args => do
  if args == [Letters.ofText "--help"] || args == [Letters.ofText "--version"] then exit 0
  let args := if args.head? == some ['-', '-'] then args.tail else args
  match args with
  | [] => misused (Letters.ofText "missing operand")
  | format :: args =>
    let (r, p) ← ((Printf.passes format (args.length + 1)).run).run { args := args }
    say p.out.reverse.flatten
    match r with
    | .ok () => return
    | .error status => exit status

end LintDispatch.Utility
