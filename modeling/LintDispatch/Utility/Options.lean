import LintDispatch.Utility.Basic
import LintDispatch.Utility.Quoting

/-!
# Options of utilities
Options are letters after one dash, several of which may stand together, or words after two dashes,
which may be cut short as long as they stay clear. Options and operands may be mixed; two dashes
alone end the options.
-/

namespace LintDispatch.Utility

/-- Whether an option has an argument. -/
inductive Arity where
  | none
  | needed
  | allowed
  deriving DecidableEq, Repr, Inhabited

/-- The options that a utility knows. -/
structure OptionTable where
  /-- The letters after one dash. -/
  letters : List (Char × Arity)
  /-- The words after two dashes, each with the letter that it stands for. -/
  words : List (String × Arity × Char) := []
  /-- Options come before all operands. -/
  leading : Bool := false
  deriving Inhabited

/-- The words that every utility knows. -/
def commonWords : List (String × Arity × Char) :=
  [("help", .none, '?'), ("version", .none, '!')]

/-- What is wrong with an argument. -/
abbrev OptionFault := Letters

/-- Options with their arguments, in order, and the operands. An argument that makes no sense as an
option ends them; what is wrong with it is kept. -/
structure Arguments where
  options : List (Char × Letters) := []
  operands : List Letters := []
  fault : Option OptionFault := none
  deriving Inhabited

namespace OptionTable

/-- The option that a word stands for; `given` is how it stands in the argument. -/
def word? (t : OptionTable) (name given : Letters) :
    Except OptionFault (Arity × Char × Letters) :=
  let words := t.words ++ commonWords
  let text := Letters.ofText
  match words.find? fun w => text w.1 == name with
  | some w => .ok (w.2.1, w.2.2, text w.1)
  | none =>
    match words.filter fun w => name.isPrefixOf (text w.1) with
    | [] => .error (text "unrecognized option '--" ++ given ++ ['\''])
    | w :: ws =>
      if ws.all fun v => v.2 == w.2 then .ok (w.2.1, w.2.2, text w.1)
      else .error (text "option '--" ++ given ++ text "' is ambiguous; possibilities:" ++
        (w :: ws).flatMap fun v => text " '--" ++ text v.1 ++ ['\''])

/-- The options that letters after one dash stand for; `next` is the argument after them. The
answer says whether that has been used up, and what is wrong with the first letter that is no
option. -/
def cluster (t : OptionTable) (next : Option Letters) :
    Letters → List (Char × Letters) × Bool × Option OptionFault
  | [] => ([], false, none)
  | c :: s =>
    match (t.letters.find? (·.1 == c)).map (·.2) with
    | none => ([], false, some (Letters.ofText "invalid option -- '" ++ [c, '\'']))
    | some .none =>
      let (os, rest) := cluster t next s
      ((c, []) :: os, rest)
    | some .allowed => ([(c, s)], false, none)
    | some .needed =>
      if !s.isEmpty then ([(c, s)], false, none)
      else match next with
        | some a => ([(c, a)], true, none)
        | none =>
          ([], false, some (Letters.ofText "option requires an argument -- '" ++ [c, '\'']))

/-- The option that a word with a possible argument stands for. -/
def long (t : OptionTable) (next : Option Letters) (s : Letters) :
    Except OptionFault ((Char × Letters) × Bool) := do
  let (name, value) := s.span (· != '=')
  let (arity, c, full) ← t.word? name s
  match arity, value with
  | .none, [] => .ok ((c, []), false)
  | .none, _ =>
    .error (Letters.ofText "option '--" ++ full ++ Letters.ofText "' doesn't allow an argument")
  | .allowed, [] => .ok ((c, []), false)
  | .needed, [] =>
    match next with
    | some a => .ok ((c, a), true)
    | none =>
      .error (Letters.ofText "option '--" ++ full ++ Letters.ofText "' requires an argument")
  | .needed, _ :: v => .ok ((c, v), false)
  | .allowed, v => .ok ((c, v), false)

/-- Sorts arguments into options and operands. `skip` says that the first one has been used up. -/
def sortFrom (t : OptionTable) (skip : Bool) : List Letters → Arguments
  | [] => {}
  | a :: rest =>
    if skip then sortFrom t false rest
    else
      match a with
      | ['-', '-'] => { operands := rest }
      | '-' :: '-' :: s =>
        match t.long rest.head? s with
        | .error fault => { fault := some fault }
        | .ok (o, used) =>
          let r := sortFrom t used rest
          { r with options := o :: r.options }
      | '-' :: c :: s =>
        match t.cluster rest.head? (c :: s) with
        | (os, _, some fault) => { options := os, fault := some fault }
        | (os, used, none) =>
          let r := sortFrom t used rest
          { r with options := os ++ r.options }
      | _ =>
        if t.leading then { operands := a :: rest }
        else
          let r := sortFrom t false rest
          { r with operands := a :: r.operands }

/-- Goes through the options in their order and complains about the first that makes no sense, in
itself or to `step`. The answer has what `step` has made of them, and the operands. -/
def process {σ : Type} (t : OptionTable) (args : List Letters) (initial : σ)
    (step : σ → Char × Letters → Act σ) (status : Nat := 1) : Act (σ × List Letters) := do
  let a := t.sortFrom false args
  let s ← a.options.foldlM (fun s o => do
    if o.1 == '?' || o.1 == '!' then exit 0
    step s o) initial
  match a.fault with
  | some fault => misused fault status
  | none => return (s, a.operands)

/-- Sorts arguments into options and operands, or ends with a complaint. -/
def sort (t : OptionTable) (args : List Letters) (status : Nat := 1) : Act Arguments := do
  let (options, operands) ← t.process args [] (fun os o => return o :: os) status
  return { options := options.reverse, operands := operands }

end OptionTable

namespace Arguments

/-- The option has been given. -/
def has (a : Arguments) (c : Char) : Bool := a.options.any (·.1 == c)

/-- The argument of the last option of a letter. -/
def last? (a : Arguments) (c : Char) : Option Letters :=
  (a.options.reverse.find? (·.1 == c)).map (·.2)

/-- Of some options, the one that was given last. -/
def lastOf? (a : Arguments) (cs : List Char) : Option Char :=
  (a.options.reverse.find? fun o => cs.contains o.1).map (·.1)

end Arguments

/-! ## Numbers in arguments -/

/-- Why an argument is no number. -/
inductive NumberFault where
  | invalid
  | tooLarge
  deriving DecidableEq, Repr, Inhabited

/-- The power of a thousand, or of 1024, that a letter after a number stands for. -/
def suffixPower? (c : Char) : Option Nat :=
  match c with
  | 'k' | 'K' => some 1
  | 'm' | 'M' => some 2
  | 'G' => some 3
  | 'T' => some 4
  | 'P' => some 5
  | 'E' => some 6
  | 'Z' => some 7
  | 'Y' => some 8
  | _ => none

/-- The factor that the letters after a number stand for. -/
def factor? (s : Letters) : Option Nat :=
  match s with
  | [] => some 1
  | ['b'] => some 512
  | c :: rest =>
    match suffixPower? c, String.ofList rest with
    | some n, "" | some n, "iB" => some (Nat.pow 1024 n)
    | some n, "B" | some n, "D" => some (Nat.pow 1000 n)
    | _, _ => none

/-- The largest number that an argument may spell. -/
def maxNumber : Nat := UInt64.size - 1

/-- The number that an argument spells, with the letters after it as a factor. `factors` says whether
such letters are allowed; they may stand alone. -/
def number? (factors : Bool) (s : Letters) : Except NumberFault Nat :=
  let body := s.dropWhile Letters.isSpace
  let body := if body.head? == some '+' then body.tail else body
  let (digits, suffix) := if (body.head?.map Char.isDigit).getD false then body.span Char.isDigit
    else ([], s)
  if digits.isEmpty && suffix.isEmpty then .error .invalid
  else
    let n := if digits.isEmpty then 1 else Letters.number 10 digits
    match if factors || suffix.isEmpty then factor? suffix else none with
    | none => .error .invalid
    | some k => if maxNumber < n * k || maxNumber < n then .error .tooLarge else .ok (n * k)

/-- A complaint that an argument spells no number. -/
def refuseNumber {α : Type} (complaint : String) (s : Letters) (fault : NumberFault) : Act α :=
  refuse (Letters.ofText complaint ++ Letters.ofText ": " ++ quote s ++ match fault with
    | .invalid => []
    | .tooLarge => Letters.ofText ": Value too large for defined data type")

/-- The number that an argument spells, or a complaint that it spells none below or at `most`. -/
def numberOr (complaint : String) (factors : Bool) (s : Letters) (most : Nat := maxNumber) :
    Act Nat :=
  match number? factors s with
  | .ok n => if most < n then refuseNumber complaint s .tooLarge else return n
  | .error fault => refuseNumber complaint s fault

/-! ## Words in arguments -/

/-- The word that an argument stands for, which may be cut short as long as it stays clear, or a
complaint. `option` names the option that the argument belongs to. -/
def wordOr (words : List String) (option : String) (s : Letters) : Act String := do
  let text := Letters.ofText
  let fits := words.filter fun w => s.isPrefixOf (text w)
  match words.find? (fun w => text w == s), fits with
  | some w, _ | none, [w] => return w
  | none, _ =>
    warn (text (if fits.isEmpty then "invalid argument " else "ambiguous argument ") ++ quote s ++
      text " for " ++ inQuotes (text option))
    let list := text "Valid arguments are:" ++
      (words.flatMap fun w => text "\n  - " ++ inQuotes (text w)) ++ ['\n']
    let _ ← writeAll 2 list.length list
    suggestHelp

end LintDispatch.Utility
