import LintDispatch.Machine.Layout
import LintDispatch.Shell.Builtin.Basic

/-!
# Writing texts
`echo` writes its arguments, and `printf` lays them out in a format. Both replace escapes, which are
spelled with backslashes.
-/

namespace LintDispatch.Shell

open LintDispatch.Machine

/-! ## Escapes -/

/-- The character that a letter after a backslash stands for. -/
def escape? : Char → Option Char
  | 'a' => some '\x07'
  | 'b' => some '\x08'
  | 'e' => some '\x1b'
  | 'f' => some '\x0c'
  | 'n' => some '\n'
  | 'r' => some '\r'
  | 't' => some '\t'
  | 'v' => some '\x0b'
  | '\\' => some '\\'
  | _ => none

/-- An octal digit. -/
def isOctal (c : Char) : Bool := '0' ≤ c && c ≤ '7'

/-- The character of up to three octal digits at the front, and what follows them. -/
def octalChar (s : Letters) : Char × Letters :=
  let digits := (s.take 3).takeWhile isOctal
  (Char.ofNat (Letters.number 8 digits % 256), s.drop digits.length)

/-- The character that is spelled after a backslash, and what follows it. An unknown escape is no
escape at all. -/
def escapeChar (s : Letters) : Char × Letters :=
  match s with
  | [] => ('\\', [])
  | c :: rest =>
    match escape? c with
    | some e => (e, rest)
    | none => if isOctal c then octalChar s else ('\\', s)

/-- A text with its escapes replaced, and whether `\c` cut it short. Octal escapes may start with one
more zero here. -/
def unescape : (fuel : Nat) → Letters → Letters × Bool
  | 0, s => (s, false)
  | _, [] => ([], false)
  | _ + 1, '\\' :: 'c' :: _ => ([], true)
  | fuel + 1, '\\' :: s =>
    let s := match s with
      | '0' :: d :: rest => if isOctal d then d :: rest else s
      | _ => s
    let (c, rest) := escapeChar s
    let (t, cut) := unescape fuel rest
    (c :: t, cut)
  | fuel + 1, c :: s =>
    let (t, cut) := unescape fuel s
    (c :: t, cut)

/-! ## Echo -/

/-- The text of `echo`: the arguments with blanks between them, up to `\c`. -/
def echoText : List Letters → Letters × Bool
  | [] => ([], false)
  | [a] => unescape a.length a
  | a :: as =>
    let (s, cut) := unescape a.length a
    if cut then (s, true)
    else
      let (t, cut) := echoText as
      (s ++ ' ' :: t, cut)

/-- Writes the arguments. -/
def echo : Builtin := fun args => do
  let (line, args) := match args with
    | ['-', 'n'] :: args => (false, args)
    | args => (true, args)
  let (s, cut) := echoText args
  say (if line && !cut then s ++ ['\n'] else s)
  return 0

/-! ## Formats -/

/-- Where the carrying out of a format stands. -/
structure Formatting where
  args : List Letters
  /-- Some argument made no sense. -/
  faulty : Bool := false
  /-- The output is over. -/
  cut : Bool := false
  deriving Inhabited

/-- Something that is done while a format is carried out. -/
abbrev Format := StateT Formatting Act

namespace Format

/-- The next argument, if there is one. -/
def next? : Format (Option Letters) := do
  let f ← get
  match f.args with
  | [] => return none
  | a :: args =>
    set { f with args := args }
    return some a

/-- Says that an argument is not what it should be. -/
def warn (s : Letters) (fault : String) : Format Unit := do
  liftM (complain (about s fault))
  modify fun f => { f with faulty := true }

/-- Says what is wrong with a number, if something is. -/
def check (s rest : Letters) (found fits : Bool) : Format Unit := do
  if !rest.isEmpty then
    warn s (if found then ": not completely converted" else ": expected numeric value")
  else if !fits then warn s ": Numerical result out of range"

/-- The code of the character after a quote. -/
def quotedCode? (s : Letters) : Option Nat :=
  match s with
  | '\'' :: rest | '"' :: rest => some ((rest.head?.map Char.toNat).getD 0)
  | _ => none

/-- The next argument as a whole number. -/
def signed : Format Int := do
  match ← next? with
  | none => return 0
  | some s =>
    match quotedCode? s with
    | some n => return n
    | none =>
      let n := Numeral.read false s
      check s n.rest n.found n.fits
      return n.clamped

/-- The next argument as a whole number without a sign. -/
def unsigned : Format Nat := do
  match ← next? with
  | none => return 0
  | some s =>
    match quotedCode? s with
    | some n => return n
    | none =>
      let n := Numeral.read false s
      let fits := n.value.natAbs ≤ Numeral.maxUnsigned
      check s n.rest n.found fits
      return if fits then (n.value % Int.pow 2 64).toNat else Numeral.maxUnsigned

/-- The next argument as a number that may have a fraction. -/
def fraction : Format Decimal.Literal := do
  match ← next? with
  | none => return ⟨false, .finite 0 1⟩
  | some s =>
    match quotedCode? s with
    | some n => return ⟨false, .finite n 1⟩
    | none =>
      match Decimal.Literal.read? Letters.isSpace s with
      | none =>
        check s s false true
        return ⟨false, .finite 0 1⟩
      | some (x, rest) =>
        let rounded := Decimal.Precision.double.round x.magnitude
        let fits := match x.magnitude, rounded with
          | .infinite, _ => !(x.magnitude == .infinite && s.any Char.isDigit)
          | .finite a _, .finite b _ => a == 0 || b != 0
          | .finite _ _, _ => false
          | .none, _ => true
        check s rest true fits
        return ⟨x.negative, rounded⟩

/-- The flags in front of a directive. -/
def flags (l : Layout) : Letters → Layout × Letters
  | [] => (l, [])
  | c :: s => if "#-+ 0".toList.contains c then flags (l.withFlag c) s else (l, c :: s)

/-- The number in front of a directive, spelled out or taken from the arguments. -/
def count (s : Letters) : Format (Option Int × Letters) := do
  match s with
  | '*' :: rest => return (some (← signed), rest)
  | s =>
    let (digits, rest) := s.span Char.isDigit
    return (if digits.isEmpty then none else some (Letters.number 10 digits : Nat), rest)

/-- The layout of a directive, and what follows it. -/
def layout (s : Letters) : Format (Layout × Letters) := do
  let (l, s) := flags {} s
  let (width, s) ← count s
  let l := l.withWidth (width.getD 0)
  match s with
  | '.' :: s =>
    let (precision, s) ← count s
    return (l.withPrecision (precision.getD 0), s)
  | s => return (l, s)

/-- Writes a text. -/
def put (s : Letters) : Format Unit := liftM (say s)

/-- Carries out a directive. `shown` is its text. -/
def directive (shown : Letters) (l : Layout) (letter : Char) : Format Unit := do
  match letter with
  | 's' => put (l.text ((← next?).getD []))
  | 'b' =>
    let a := (← next?).getD []
    let (s, cut) := unescape a.length a
    put (l.text s)
    if cut then modify fun f => { f with cut := true }
  | 'c' =>
    let c := match ← next? with
      | some (c :: _) => c
      | _ => Char.ofNat 0
    put (l.fill [c])
  | 'd' | 'i' => put (l.signed (← signed))
  | 'o' | 'u' | 'x' | 'X' => put (l.unsigned letter (← unsigned))
  | c =>
    if "aAeEfFgG".toList.contains c then put (l.fraction 1 c (← fraction))
    else liftM (abort (about shown ": invalid directive") : Act Unit)

/-- Carries out a format once. -/
def pass : (fuel : Nat) → Letters → Format Unit
  | 0, _ | _, [] => return
  | fuel + 1, '\\' :: s => do
    let (c, rest) := escapeChar s
    put [c]
    pass fuel rest
  | fuel + 1, '%' :: '%' :: s => do
    put ['%']
    pass fuel s
  | fuel + 1, '%' :: s => do
    let (l, rest) ← layout s
    match rest with
    | [] => liftM (abort (Letters.ofText "missing format character") : Act Unit)
    | c :: after =>
      directive ('%' :: s.take (s.length - after.length)) l c
      if !(← get).cut then pass fuel after
  | fuel + 1, c :: s => do
    let (t, rest) := s.span fun c => c != '\\' && c != '%'
    put (c :: t)
    pass fuel rest

/-- Carries out a format as long as there are arguments and it takes some. -/
def passes (format : Letters) : (rounds : Nat) → Format Unit
  | 0 => return
  | rounds + 1 => do
    let before := (← get).args.length
    pass (format.length + 1) format
    let f ← get
    if f.cut || f.args.isEmpty || f.args.length == before then return
    passes format rounds

end Format

/-- Lays out arguments in a format. -/
def printf : Builtin := fun args => do
  match ← withoutOptions args with
  | [] => abort (Letters.ofText "usage: printf format [arg ...]")
  | format :: args =>
    let ((), f) ← (Format.passes format (args.length + 1)).run { args := args }
    return if f.faulty then 1 else 0

end LintDispatch.Shell
