import LintDispatch.Utility.Options

/-!
# Changing letters
`tr` changes, deletes or squeezes the letters of a set. A set is spelled with single letters, ranges,
classes and repeated letters; it is a list, since the first letter of one set becomes the first one
of the other.
-/

namespace LintDispatch.Utility

open LintDispatch.Machine

namespace Tr

/-- A letter of a set as it is spelled; an escaped one stands only for itself. -/
structure Spelled where
  char : Char
  escaped : Bool := false
  deriving DecidableEq, Repr, Inhabited

/-- An octal digit. -/
def isOctal (c : Char) : Bool := '0' ≤ c && c ≤ '7'

/-- The letter of an escape. -/
def escapeOf (c : Char) : Char :=
  match c with
  | 'a' => '\x07'
  | 'b' => '\x08'
  | 'f' => '\x0c'
  | 'n' => '\n'
  | 'r' => '\r'
  | 't' => '\t'
  | 'v' => '\x0b'
  | c => c

/-- The octal digits of an escape: three of them only if they fit in a letter. -/
def octalDigits (s : Letters) : Letters :=
  let ds := (s.take 3).takeWhile isOctal
  if Letters.number 8 ds < 256 then ds else ds.take 2

/-- The escapes of three octal digits that do not fit in a letter, in order. -/
def ambiguous : (fuel : Nat) → Letters → List Letters
  | 0, _ | _, [] => []
  | fuel + 1, '\\' :: c :: s =>
    if !isOctal c then ambiguous fuel s
    else
      let three := ((c :: s).take 3).takeWhile isOctal
      let ds := octalDigits (c :: s)
      (if ds.length < three.length then [three] else []) ++ ambiguous fuel ((c :: s).drop ds.length)
  | fuel + 1, _ :: s => ambiguous fuel s

/-- Replaces the escapes of a set. -/
def spelling : (fuel : Nat) → Letters → List Spelled
  | 0, _ | _, [] => []
  | _ + 1, ['\\'] => [⟨'\\', false⟩]
  | fuel + 1, '\\' :: c :: s =>
    if isOctal c then
      let ds := octalDigits (c :: s)
      ⟨Char.ofNat (Letters.number 8 ds), true⟩ :: spelling fuel ((c :: s).drop ds.length)
    else ⟨escapeOf c, true⟩ :: spelling fuel s
  | fuel + 1, c :: s => ⟨c, false⟩ :: spelling fuel s

/-- A backslash stands at the end, with nothing to protect. -/
def endsOpen (s : Letters) : Bool := (s.reverse.takeWhile (· == '\\')).length % 2 == 1

/-- A part of a set. -/
inductive Piece where
  | letters (s : Letters)
  /-- A class by its name. -/
  | named (name : String) (s : Letters)
  | same (c : Char)
  | repeated (c : Char) (count : Nat)
  deriving DecidableEq, Repr, Inhabited

/-- The letters from one to another. -/
def range (a b : Char) : Letters :=
  (List.range (b.toNat + 1 - a.toNat)).map fun k => Char.ofNat (a.toNat + k)

/-- All letters. -/
def allLetters : Letters := range (Char.ofNat 0) (Char.ofNat 255)

/-- The letters of a class. -/
def classOf? (s : String) : Option Letters :=
  match s with
  | "upper" => some (range 'A' 'Z')
  | "lower" => some (range 'a' 'z')
  | "digit" => some (range '0' '9')
  | "alpha" => some (range 'A' 'Z' ++ range 'a' 'z')
  | "alnum" => some (range '0' '9' ++ range 'A' 'Z' ++ range 'a' 'z')
  | "xdigit" => some (range '0' '9' ++ range 'A' 'F' ++ range 'a' 'f')
  | "blank" => some ['\t', ' ']
  | "space" => some ['\t', '\n', '\x0b', '\x0c', '\r', ' ']
  | "punct" => some ((range '!' '~').filter fun c => !c.isAlphanum)
  | "cntrl" => some (range (Char.ofNat 0) '\x1f' ++ ['\x7f'])
  | "print" => some (range ' ' '~')
  | "graph" => some (range '!' '~')
  | _ => none

/-- The letter stands here with its special meaning. -/
def isSign (c : Char) (s : List Spelled) : Bool := s.head? == some ⟨c, false⟩

/-- What stands between a sign and the same sign with a closing bracket, and what follows. -/
def spanClosing (sign : Char) : List Spelled → Option (List Spelled × List Spelled)
  | [] => none
  | x :: s =>
    if x == ⟨sign, false⟩ && isSign ']' s then some ([], s.tail)
    else (spanClosing sign s).map fun (t, rest) => (x :: t, rest)

/-- The letter can be seen on its own. -/
def isAsciiSeen (c : Char) : Bool := 0x20 ≤ c.toNat && c.toNat < 0x7F

/-- The letters as they are shown. -/
def shown (s : List Spelled) : Letters :=
  s.flatMap fun x =>
    if x.char == '\\' then ['\\', '\\'] else if isAsciiSeen x.char then [x.char]
    else backslashed x.char

/-- A repeated letter after its bracket: none if this is no such thing. -/
def repeated? (s : List Spelled) : Except Letters (Option (Piece × List Spelled)) :=
  match s with
  | c :: star :: rest =>
    if star != ⟨'*', false⟩ then .ok none
    else
      let (count, after) := rest.span fun x => !x.escaped && x.char != ']'
      if !isSign ']' after then .ok none
      else
        let digits := count.map (·.char)
        let base := if digits.head? == some '0' then 8 else 10
        if digits.all fun d => Letters.digit d < base then
          .ok (some (.repeated c.char (Letters.number base digits), after.tail))
        else .error (Letters.ofText "invalid repeat count " ++ quote (shown count) ++
          Letters.ofText " in [c*n] construct")
  | _ => .ok none

/-- The text is a star, digits and a closing bracket. -/
def isCount (s : List Spelled) : Bool :=
  isSign '*' s && isSign ']' (s.tail.dropWhile fun x => !x.escaped && x.char.isDigit)

/-- A class in brackets, after its opening bracket: none if this is no such thing. -/
def class? (s : List Spelled) : Except Letters (Option (Piece × List Spelled)) :=
  match s with
  | sign :: rest =>
    if sign.escaped || !(sign.char == ':' || sign.char == '=') then .ok none
    else
      match spanClosing sign.char rest with
      | none => .ok none
      | some (inner, after) =>
        let name := String.ofList (inner.map (·.char))
        if sign.char == ':' then
          match classOf? name with
          | some cs => .ok (some (.named name cs, after))
          | none =>
            if inner.isEmpty then .error (Letters.ofText "missing character class name '[::]'")
            else if isCount rest then .ok none
            else .error (Letters.ofText "invalid character class " ++ quote (shown inner))
        else
          match inner with
          | [] => .error (Letters.ofText "missing equivalence class character '[==]'")
          | [c] => .ok (some (.same c.char, after))
          | _ =>
            if isCount rest then .ok none
            else .error (shown inner ++
              Letters.ofText ": equivalence class operand must be a single character")
  | [] => .ok none

/-- The letter as it is shown in a range. -/
def shownInRange (c : Char) : Letters := if isAsciiSeen c then [c] else octalEscape c

/-- The pieces of a set. -/
def pieces : (fuel : Nat) → List Spelled → Except Letters (List Piece)
  | 0, _ | _, [] => .ok []
  | fuel + 1, x :: s => do
    let single : Except Letters (List Piece) := do
      match s with
      | dash :: y :: rest =>
        if dash != ⟨'-', false⟩ then .ok (.letters [x.char] :: (← pieces fuel s))
        else if y.char.toNat < x.char.toNat then
          .error (Letters.ofText "range-endpoints of '" ++ shownInRange x.char ++ '-' ::
            shownInRange y.char ++ Letters.ofText "' are in reverse collating sequence order")
        else .ok (.letters (range x.char y.char) :: (← pieces fuel rest))
      | _ => .ok (.letters [x.char] :: (← pieces fuel s))
    if x != ⟨'[', false⟩ || s.length < 2 then single
    else
      match ← class? s with
      | some (p, rest) => .ok (p :: (← pieces fuel rest))
      | none =>
        match ← repeated? s with
        | some (p, rest) => .ok (p :: (← pieces fuel rest))
        | none => single

/-- The pieces of a set as it is spelled. -/
def piecesOf (s : Letters) : Except Letters (List Piece) :=
  let t := spelling s.length s
  pieces t.length t

/-- The letters of a piece; `fill` is how often a letter is repeated that is repeated as often as
there is room. -/
def Piece.expand (fill : Nat) : Piece → Letters
  | .letters s | .named _ s => s
  | .same c => [c]
  | .repeated c 0 => List.replicate fill c
  | .repeated c n => List.replicate n c

/-- The letters of a set without letters that fill it up. -/
def lettersOf (ps : List Piece) : Letters := ps.flatMap (Piece.expand 0)

/-- What a run is to do. -/
structure Plan where
  complement : Bool := false
  delete : Bool := false
  squeeze : Bool := false
  truncate : Bool := false
  first : List Piece := []
  second : Option (List Piece) := none
  deriving Inhabited

/-- The letters that are not in a set. -/
def complementOf (s : Letters) : Letters :=
  allLetters.filter fun c => !s.contains c

/-- The letters of the first set. -/
def Plan.chosen (p : Plan) : Letters :=
  let s := lettersOf p.first
  if p.complement then complementOf s else s

/-- Letters are changed. -/
def Plan.changes (p : Plan) : Bool := p.second.isSome && !p.delete

/-- A piece that fills up its set. -/
def Piece.isFilling : Piece → Bool
  | .repeated _ 0 => true
  | _ => false

/-- A stretch of a set while it is gone through: its letters, and whether it is a class of letters of
one case that has not been begun. -/
structure Stretch where
  letters : Letters
  isCase : Bool := false
  deriving DecidableEq, Repr, Inhabited

/-- The stretch of a piece. -/
def Piece.stretch (fill : Nat) (p : Piece) : Stretch where
  letters := p.expand fill
  isCase := match p with
    | .named "upper" _ | .named "lower" _ => true
    | _ => false

/-- The stretches of a set that hold letters. -/
def stretchesOf (fill : Nat) (ps : List Piece) : List Stretch :=
  (ps.map (Piece.stretch fill)).filter (!·.letters.isEmpty)

/-- Goes through two sets side by side: which letter becomes which, and how many classes of letters of
one case stand opposite each other. Such a class in the second set has to stand opposite one in the
first set. -/
def sideBySide : (fuel : Nat) → List Stretch → List Stretch → Option (List (Char × Char) × Nat)
  | 0, _, _ | _, _, [] => some ([], 0)
  | fuel + 1, xs, y :: ys =>
    match xs, y.letters with
    | x :: xs, b :: bs =>
      if y.isCase then
        if !x.isCase then none
        else (sideBySide fuel xs ys).map fun (ps, n) => (x.letters.zip y.letters ++ ps, n + 1)
      else
        match x.letters with
        | [] => sideBySide fuel xs (y :: ys)
        | a :: as =>
          let xs := if as.isEmpty then xs else ⟨as, false⟩ :: xs
          let ys := if bs.isEmpty then ys else ⟨bs, false⟩ :: ys
          (sideBySide fuel xs ys).map fun (ps, n) => ((a, b) :: ps, n)
    | [], _ => if y.isCase then none else some ([], 0)
    | _, [] => sideBySide fuel xs ys

/-- The letters of a case. -/
def caseSize : Nat := 26

/-- How often a letter of the second set is repeated that fills it up. -/
def Plan.room (p : Plan) : Nat := p.chosen.length - (lettersOf (p.second.getD [])).length

/-- The stretches of both sets. -/
def Plan.stretches (p : Plan) : List Stretch × List Stretch :=
  (stretchesOf 0 p.first, stretchesOf p.room (p.second.getD []))

/-- Which letter becomes which as far as the sets reach, and how many classes of letters of one case
stand opposite each other; none if one of them does not. -/
def Plan.opposites? (p : Plan) : Option (List (Char × Char) × Nat) :=
  let (xs, ys) := p.stretches
  let count (s : List Stretch) : Nat := (s.flatMap (·.letters)).length
  sideBySide (count xs + count ys + xs.length + ys.length + 1) xs ys

/-- The letter with which the second set goes on when it is too short. A class cannot go on. -/
def Plan.extension? (p : Plan) : Option Char :=
  match (p.second.getD []).getLast? with
  | some (.letters s) => s.getLast?
  | some (.repeated c _) | some (.same c) => some c
  | some (.named _ _) | none => none

/-- The letters of the second set as they are spelled, filled up. -/
def Plan.spelledTargets (p : Plan) : Letters := (p.second.getD []).flatMap (Piece.expand p.room)

/-- How many letters the second set is short of. A pair of classes of letters of one case counts as
one letter. -/
def Plan.shortage (p : Plan) (pairs : Nat) : Nat :=
  (p.chosen.length - pairs * (caseSize - 1)) -
    (p.spelledTargets.length - pairs * (caseSize - 1))

/-- What is wrong with the sets of a plan that changes letters. -/
def Plan.changeFault? (p : Plan) : Option String :=
  let second := p.second.getD []
  let isRestricted : Piece → Bool
    | .named name _ => name != "upper" && name != "lower"
    | _ => false
  let isCase (q : Piece) : Bool := (q.stretch 0).isCase
  let pairs? := if p.complement || !second.any isCase then some 0 else p.opposites?.map (·.2)
  if second.any fun | .same _ => true | _ => false then
    some "[=c=] expressions may not appear in string2 when translating"
  else if second.any isRestricted then
    some ("when translating, the only character classes that may appear in\nstring2 are " ++
      "'upper' and 'lower'")
  else
    match pairs? with
    | none => some "misaligned [:upper:] and/or [:lower:] construct"
    | some pairs =>
      let extended := p.spelledTargets ++
        if p.truncate then [] else List.replicate (p.shortage pairs) (p.extension?.getD ' ')
      if 0 < p.shortage pairs && !p.truncate && p.spelledTargets.length == 0 then
        some "when not truncating set1, string2 must be non-empty"
      else if 0 < p.shortage pairs && !p.truncate && p.extension?.isNone then
        some ("when translating with string1 longer than string2,\n" ++
          "the latter string must not end with a character class")
      else if p.complement && (p.first.any fun | .named _ _ => true | _ => false) &&
          (extended.length != p.chosen.length || extended.any (some · != extended.head?)) then
        some ("when translating with complemented character classes,\n" ++
          "string2 must map all characters in the domain to one")
      else none

/-- What is wrong with the sets of a plan. -/
def Plan.fault? (p : Plan) : Option String :=
  let second := p.second.getD []
  if p.first.any Piece.isFilling then
    some "the [c*] repeat construct may not appear in string1"
  else if 1 < second.countP Piece.isFilling then
    some "only one [c*] repeat construct may appear in string2"
  else if p.changes then p.changeFault?
  else if second.any Piece.isFilling then
    some "the [c*] construct may appear in string2 only when translating"
  else none

/-- The letters that the chosen ones become or that stand for none of them. -/
def Plan.targets (p : Plan) : Letters :=
  let s := p.spelledTargets
  if p.truncate then s
  else s ++ List.replicate (p.chosen.length - s.length) (p.extension?.getD ' ')

/-- Which letter becomes which. -/
def Plan.pairs (p : Plan) : List (Char × Char) :=
  if p.complement then p.chosen.zip p.targets
  else
    let (xs, ys) := p.stretches
    let extension := if p.truncate then [] else
      List.replicate (p.chosen.length - p.spelledTargets.length + caseSize * ys.length)
        (p.extension?.getD ' ')
    let ys := if p.extension?.isNone || extension.isEmpty then ys else ys ++ [⟨extension, false⟩]
    let count (s : List Stretch) : Nat := (s.flatMap (·.letters)).length
    ((sideBySide (count xs + count ys + xs.length + ys.length + 1) xs ys).map (·.1)).getD []

/-- What each letter becomes, by its number. -/
def Plan.table (p : Plan) : Array Char :=
  p.pairs.foldl (fun t (a, b) => t.setIfInBounds a.toNat b) (Array.range 256 |>.map Char.ofNat)

/-- Which letters are in a set, by their numbers. -/
def members (s : Letters) : Array Bool :=
  s.foldl (fun t c => t.setIfInBounds c.toNat true) (Array.replicate 256 false)

/-- How letters are treated: whether one is dropped, what it becomes, and whether several of it in a
row become one. -/
structure Treatment where
  dropped : Array Bool
  table : Array Char
  squeezed : Array Bool

/-- The treatment that a plan asks for. -/
def Plan.treatment (p : Plan) : Treatment where
  dropped := members (if p.delete then p.chosen else [])
  table := if p.changes then p.table else Array.range 256 |>.map Char.ofNat
  squeezed := members (if !p.squeeze then []
    else match p.second with
      | some second => if p.delete then lettersOf second else p.targets
      | none => p.chosen)

/-- Treats one letter; the result is collected in reverse. -/
def Treatment.apply (t : Treatment) (s : Option Char × Letters) (c : Char) :
    Option Char × Letters :=
  if t.dropped.getD c.toNat false then s
  else
    let d := t.table.getD c.toNat c
    if t.squeezed.getD d.toNat false && s.1 == some d then s else (some d, d :: s.2)

/-- The options. -/
def options : OptionTable where
  letters := "cCdst".toList.map (·, .none)
  words := [("complement", .none, 'c'), ("delete", .none, 'd'), ("squeeze-repeats", .none, 's'),
    ("truncate-set1", .none, 't')]
  leading := true

/-- More to be said about the number of sets. -/
def explain (text : String) : Act Unit := do
  let s := Letters.ofText (text ++ "\n")
  let _ ← writeAll 2 s.length s

/-- The sets that are named, or a complaint about their number. -/
def setsOf (a : Arguments) : Act (Letters × Option Letters) := do
  let delete := a.has 'd'
  let squeeze := a.has 's'
  let least := if delete == squeeze then 2 else 1
  let most := if delete && !squeeze then 1 else 2
  let sets := a.operands
  if sets.length < least then
    match sets.getLast? with
    | none => warn (Letters.ofText "missing operand")
    | some s =>
      warn (Letters.ofText "missing operand after " ++ quote s)
      explain (if squeeze then
          "Two strings must be given when both deleting and squeezing repeats."
        else "Two strings must be given when translating.")
    suggestHelp
  if most < sets.length then
    warn (Letters.ofText "extra operand " ++ quote (sets.getD most []))
    if sets.length == 2 then
      explain "Only one string may be given when deleting without squeezing repeats."
    suggestHelp
  return (sets.headD [], sets[1]?)

/-- The pieces of a set, or a complaint about its spelling. -/
def readSet (s : Letters) : Act (List Piece) := do
  (ambiguous s.length s).forM fun ds =>
    warn (Letters.ofText "warning: the ambiguous octal escape \\" ++ ds ++
      Letters.ofText " is being\n\tinterpreted as the 2-byte sequence \\0" ++ ds.take 2 ++
      Letters.ofText ", " ++ ds.drop 2)
  if endsOpen s then
    warn (Letters.ofText "warning: an unescaped backslash at end of string is not portable")
  match piecesOf s with
  | .ok ps => return ps
  | .error fault => refuse fault

end Tr

/-- Changes, deletes or squeezes letters. -/
def tr : Program := program fun args => do
  let a ← Tr.options.sort args
  let (first, second) ← Tr.setsOf a
  let plan : Tr.Plan := {
    complement := a.has 'c' || a.has 'C', delete := a.has 'd', squeeze := a.has 's'
    truncate := a.has 't', first := ← Tr.readSet first
    second := ← second.mapM Tr.readSet }
  match plan.fault? with
  | some fault => refuse (Letters.ofText fault)
  | none => pure ()
  let t := plan.treatment
  let (_, fault) ← eachBlock 0 blockSize (fun last block => do
    let (last, out) := block.foldl t.apply (last, [])
    say out.reverse
    return (last, true)) Job.rounds (none : Option Char)
  match fault with
  | some e => refuse (because (Letters.ofText "read error") e)
  | none => pure ()

end LintDispatch.Utility
