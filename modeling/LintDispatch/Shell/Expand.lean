import LintDispatch.Shell.Arithmetic
import LintDispatch.Shell.Fields
import LintDispatch.Shell.State

/-!
# Expansion
Words are expanded before a command is carried out: parameters, commands and numbers in them are
replaced by their values, what is not quoted is split into fields, and fields that match names of
files are replaced by these. How the output of a command is obtained is a parameter.
-/

namespace LintDispatch.Shell

open LintDispatch.Machine

namespace Expand

/-- Obtains the output of a command. -/
abbrev OutputOf := Command → Act Letters

/-! ## Home directories -/

/-- The home directory of a user, or of whoever runs the shell. -/
def home? (st : State) (user : Letters) : Option Letters :=
  if user.isEmpty then st.valueOf? (Letters.ofText "HOME")
  else if user == Letters.ofText "root" then some (Letters.ofText "/root")
  else none

/-- Replaces a tilde and a user's name at the front of a text. `alone` says that nothing else
belongs to the text. -/
def tildeText (st : State) (inValue alone : Bool) (s : Letters) : Word :=
  match s with
  | '~' :: rest =>
    let (user, after) := rest.span fun c => c != '/' && !(inValue && c == ':')
    if after.isEmpty && !alone then [.text false s]
    else
      match home? st user with
      | some dir => [.text true dir, .text false after]
      | none => [.text false s]
  | _ => [.text false s]

/-- Replaces a tilde at the front of a word. -/
def withHome (st : State) : Word → Word
  | .text false s :: rest => tildeText st false rest.isEmpty s ++ rest
  | w => w

/-- Cuts a text after each colon. -/
def colonParts (s : Letters) : List Letters :=
  s.foldr (fun c parts =>
    match parts with
    | p :: ps => if c == ':' then [':'] :: p :: ps else (c :: p) :: ps
    | [] => [[c]]) [[]]

/-- Replaces tildes after colons in a text; the first part only if `atFront`. -/
def tildesIn (st : State) (atFront alone : Bool) (s : Letters) : Word :=
  let parts := colonParts s
  (parts.zipIdx.flatMap fun (p, i) =>
    if i == 0 && !atFront then [.text false p]
    else tildeText st true (alone || i + 1 < parts.length) p)

/-- Replaces tildes at the front of a value and after its colons. -/
def withHomes (st : State) (atFront : Bool) : Word → Word
  | [] => []
  | .text false s :: rest => tildesIn st atFront rest.isEmpty s ++ withHomes st false rest
  | p :: rest => p :: withHomes st false rest

/-! ## Parameters -/

/-- The name stands for all arguments. -/
def isList (name : Letters) : Bool := name == ['@'] || name == ['*']

/-- What stands between arguments that are put together. -/
def joint (st : State) : Letters :=
  match st.valueOf? (Letters.ofText "IFS") with
  | none => [' ']
  | some [] => []
  | some (c :: _) => [c]

/-- Arguments with something between them. -/
def joined (between : List Atom) (active : Bool) (args : List Letters) : List Atom :=
  ((args.map fun s => s.map fun c => Atom.char ⟨c, active⟩).intersperse between).flatten

/-- The stretch of all arguments. If fields are wanted, each argument is one in quotes, and ends one
without them. -/
def listStretch (st : State) (fields quoted : Bool) (name : Letters) (args : List Letters) :
    Stretch :=
  if fields && !quoted then ⟨.atSeparators, joined [.gap] true args⟩
  else if fields && name == ['@'] then
    ⟨if args.isEmpty then .nowhere else .atGaps, joined [.gap] false args⟩
  else ⟨.nowhere, joined ((joint st).map fun c => .char ⟨c, !quoted⟩) (!quoted) args⟩

/-- The length of the value of a parameter. -/
def lengthOf? (st : State) (name : Letters) : Option Nat :=
  if isList name then
    let seps := if (joint st).isEmpty then 0 else st.args.length - 1
    some (st.args.flatten.length + seps)
  else (st.param? name).map List.length

/-- The parameter has no value, or an empty one if that counts too. -/
def isMissing (st : State) (colon : Bool) (name : Letters) : Bool :=
  match lengthOf? st name with
  | none => true
  | some n => colon && n == 0

/-- The value of a parameter as a stretch. -/
def valueStretch (st : State) (fields quoted : Bool) (name : Letters) : Stretch :=
  if isList name then listStretch st fields quoted name st.args
  else Stretch.ofValue quoted ((st.param? name).getD [])

/-- The value of a parameter without what matches a pattern at its beginning or end. -/
def cutStretch (st : State) (fields quoted : Bool) (name : Letters) (atEnd longest : Bool)
    (pattern : List Glyph) : Stretch :=
  let cut := Pattern.cut atEnd longest pattern
  if isList name then
    let args := if atEnd then
        match st.args.reverse with
        | a :: rest => (cut a :: rest).reverse
        | [] => []
      else
        match st.args with
        | a :: rest => cut a :: rest
        | [] => []
    listStretch st fields quoted name args
  else Stretch.ofValue quoted (cut ((st.param? name).getD []))

/-- Complains if a parameter without a value must not be used. -/
def requireSet (name : Letters) : Act Unit := do
  let st ← get
  if st.has .nounset && (lengthOf? st name).isNone then abort (about name ": parameter not set")

/-! ## Commands and numbers -/

/-- What a command has written, without the line ends at its end. -/
def outputValue (s : Letters) : Letters :=
  (((s.filter (·.toNat != 0)).reverse).dropWhile (· == '\n')).reverse

/-- Computes a number. -/
def compute (s : Letters) : Act Letters := do
  let st ← get
  let (r, assigned) := Arithmetic.eval st.valueOf? s
  assigned.forM fun a => assign a.1 a.2
  match r with
  | .ok n => return Letters.ofInt n
  | .error (.expression fault) =>
    abort (Letters.ofText ("arithmetic expression: " ++ fault ++ ": \"") ++ s ++ ['"'])
  | .error (.spelling v) => abort (Letters.ofText "Illegal number: " ++ v)

/-! ## Words -/

mutual

/-- The stretches of some parts. In the word of a parameter, text without quotes may be split. -/
def parts (output : OutputOf) (n : Nat) (fields inWord : Bool) (w : Word) : Act (List Stretch) :=
  match n with
  | 0 => stall
  | n + 1 =>
    match w with
    | [] => return []
    | p :: ps => do
      let s ← part output n fields inWord p
      return s ++ (← parts output n fields inWord ps)

/-- The stretches of a part. -/
def part (output : OutputOf) (n : Nat) (fields inWord : Bool) (p : Part) : Act (List Stretch) :=
  match n with
  | 0 => stall
  | n + 1 =>
    match p with
    | .text true s => return [⟨.nowhere, .mark :: s.map fun c => .char ⟨c, false⟩⟩]
    | .text false s =>
      return [⟨if inWord then .atSeparators else .nowhere, s.map fun c => .char ⟨c, true⟩⟩]
    | .param quoted name use => param output n fields quoted name use
    | .output _ none => return []
    | .output quoted (some c) => do
      let s ← output c
      return [Stretch.ofValue quoted (outputValue s)]
    | .number quoted w => do
      let s ← letters output n w
      return [Stretch.ofValue quoted (← compute s)]

/-- The letters of a word that stays one. -/
def letters (output : OutputOf) (n : Nat) (w : Word) : Act Letters :=
  match n with
  | 0 => stall
  | n + 1 => return lettersOfWord (← parts output n false false w)

/-- The stretches of a parameter. -/
def param (output : OutputOf) (n : Nat) (fields quoted : Bool) (name : Letters) (use : Use Word) :
    Act (List Stretch) :=
  match n with
  | 0 => stall
  | n + 1 => do
    let value : Act (List Stretch) := do
      requireSet name
      let st ← get
      if isMissing st false name then return [] else return [valueStretch st fields quoted name]
    let given (w : Word) : Act (List Stretch) := do
      parts output n fields (!quoted) (withHome (← get) w)
    match use with
    | .value => value
    | .length =>
      requireSet name
      let size := (lengthOf? (← get) name).getD 0
      return [Stretch.ofValue quoted (Letters.ofNat size)]
    | .default colon w => if isMissing (← get) colon name then given w else value
    | .instead colon w => if isMissing (← get) colon name then return [] else given w
    | .assign colon w =>
      if isMissing (← get) colon name then
        let s ← letters output n (withHome (← get) w)
        assign name s
      value
    | .demand colon w =>
      if isMissing (← get) colon name then
        let usual := ": parameter not set" ++ if colon then " or null" else ""
        if w.isEmpty then abort (about name usual)
        else
          let s ← letters output n (withHome (← get) w)
          abort (about name ": " ++ s)
      else value
    | .without atEnd longest w =>
      requireSet name
      if isMissing (← get) false name then return []
      else
        let pattern ← parts output n false false (withHome (← get) w)
        return [cutStretch (← get) fields quoted name atEnd longest (glyphsOfWord pattern)]
    | .wrong => abort (Letters.ofText "Bad substitution")

end

/-- How deeply words may stand inside each other. -/
def depth : Nat := 1000000000

/-- The letters of a word that stays one. -/
def single (output : OutputOf) (w : Word) : Act Letters := do
  letters output depth (withHome (← get) w)

/-- The letters of a value that is assigned. -/
def value (output : OutputOf) (w : Word) : Act Letters := do
  letters output depth (withHomes (← get) true w)

/-- The letters of a text below a command. -/
def document (output : OutputOf) (w : Word) : Act Letters := letters output depth w

/-- The glyphs of a pattern. -/
def pattern (output : OutputOf) (w : Word) : Act (List Glyph) := do
  return glyphsOfWord (← parts output depth false false (withHome (← get) w))

/-- What a field stands for: the files that match it, or itself. -/
def matching (field : List Atom) : Act (List Letters) := do
  let gs := glyphsOf field
  let plain := gs.map (·.char)
  if (← isOn .noglob) || !Pattern.mayMatch gs then return [plain]
  match Pattern.expand (← ask .view) gs with
  | [] => return [plain]
  | names => return names

/-- The fields of a word. -/
def fields (output : OutputOf) (w : Word) : Act (List Letters) := do
  let stretches ← parts output depth true false (withHome (← get) w)
  let found ← (fieldsOf (← get).separators none stretches).mapM matching
  return found.flatten

/-- The fields of several words. -/
def allFields (output : OutputOf) (ws : List Word) : Act (List Letters) := do
  let found ← ws.mapM (fields output)
  return found.flatten

end Expand

end LintDispatch.Shell
