import LintDispatch.FileSystem
import LintDispatch.Machine.Letters

/-!
# Patterns
A pattern is a text in which some characters are active: only these can stand for others. Patterns
select the arms of a choice, cut values at their ends and name files.
-/

namespace LintDispatch.Shell

/-- A character, and whether it may have a special meaning. -/
structure Glyph where
  char : Char
  active : Bool
  deriving DecidableEq, Repr, Inhabited

/-- A class of characters. -/
inductive CharClass where
  | alnum
  | alpha
  | blank
  | cntrl
  | digit
  | graph
  | lower
  | print
  | punct
  | space
  | upper
  | xdigit
  deriving DecidableEq, Repr, Inhabited

namespace CharClass

/-- The classes with their names. -/
def all : List (String × CharClass) :=
  [("alnum", alnum), ("alpha", alpha), ("blank", blank), ("cntrl", cntrl), ("digit", digit),
   ("graph", graph), ("lower", lower), ("print", print), ("punct", punct), ("space", space),
   ("upper", upper), ("xdigit", xdigit)]

/-- The class of a name. -/
def ofName? (name : Letters) : Option CharClass :=
  (all.find? fun c => c.1.toList == name).map (·.2)

/-- The character belongs to the class. -/
def contains (k : CharClass) (c : Char) : Bool :=
  let n := c.toNat
  let seen := 0x20 < n && n < 0x7F
  match k with
  | alnum => c.isAlphanum
  | alpha => c.isAlpha
  | blank => Letters.isBlank c
  | cntrl => n < 0x20 || n == 0x7F
  | digit => c.isDigit
  | graph => seen
  | lower => c.isLower
  | print => seen || c == ' '
  | punct => seen && !c.isAlphanum
  | space => Letters.isSpace c
  | upper => c.isUpper
  | xdigit => Letters.digit c.toLower < 16

end CharClass

/-- What may stand in brackets. -/
inductive Choice where
  | range (first last : Char)
  | class (k : CharClass)
  deriving DecidableEq, Repr, Inhabited

/-- What one piece of a pattern matches. -/
inductive Piece where
  | any
  | one
  | exactly (c : Char)
  /-- A character that is one of the choices, or that is none of them. -/
  | among (negated : Bool) (choices : List Choice)
  deriving DecidableEq, Repr, Inhabited

namespace Choice

/-- The place of a character among all others. Bytes beyond ASCII come first. -/
def rank (c : Char) : Int := if c.toNat < 128 then c.toNat else (c.toNat : Int) - 256

/-- The character is one of this choice. -/
def contains (c : Char) : Choice → Bool
  | range a b => rank a ≤ rank c && rank c ≤ rank b
  | .class k => k.contains c

end Choice

namespace Pattern

/-- The glyph is this active character. -/
def isActive (g : Glyph) (c : Char) : Bool := g.active && g.char == c

/-- The pattern without the backslashes that make the next character inactive. -/
def withoutBackslashes : List Glyph → List Glyph
  | g :: h :: gs =>
    if isActive g '\\' then ⟨h.char, false⟩ :: withoutBackslashes gs
    else g :: withoutBackslashes (h :: gs)
  | [g] => [if isActive g '\\' then ⟨'\\', false⟩ else g]
  | [] => []

/-- The class whose name stands at the front, and what follows it. -/
def class? (gs : List Glyph) : Option (CharClass × List Glyph) :=
  match gs with
  | ⟨':', true⟩ :: gs =>
    match gs.span (·.char != ':') with
    | (name, ⟨':', true⟩ :: ⟨']', true⟩ :: rest) =>
      (CharClass.ofName? (name.map (·.char))).map (·, rest)
    | _ => none
  | _ => none

/-- The choices in brackets, and what follows them. The first character is one of them, whatever it
is. -/
def choices : (fuel : Nat) → List Glyph → Option (List Choice × List Glyph)
  | 0, _ | _, [] => none
  | fuel + 1, g :: gs =>
    let close (c : Choice) (gs : List Glyph) : Option (List Choice × List Glyph) :=
      match gs with
      | [] => none
      | h :: rest =>
        if isActive h ']' then some ([c], rest)
        else (choices fuel gs).map fun (cs, rest) => (c :: cs, rest)
    match if isActive g '[' then class? gs else none with
    | some (k, rest) => close (.class k) rest
    | none =>
      match gs with
      | dash :: last :: rest =>
        if isActive dash '-' && !isActive last ']' then close (.range g.char last.char) rest
        else close (.range g.char g.char) gs
      | _ => close (.range g.char g.char) gs

/-- What stands in brackets at the front, and what follows them. -/
def bracket (gs : List Glyph) : Option (Piece × List Glyph) :=
  let (negated, gs) := match gs with
    | g :: rest => if isActive g '!' then (true, rest) else (false, gs)
    | [] => (false, gs)
  (choices gs.length gs).map fun (cs, rest) => (.among negated cs, rest)

/-- The pieces of a pattern; `fuel` bounds its length. -/
def pieces : (fuel : Nat) → List Glyph → List Piece
  | 0, _ => []
  | _ + 1, [] => []
  | fuel + 1, g :: gs =>
    if isActive g '*' then .any :: pieces fuel gs
    else if isActive g '?' then .one :: pieces fuel gs
    else if isActive g '[' then
      match bracket gs with
      | some (p, gs) => p :: pieces fuel gs
      | none => .exactly '[' :: pieces fuel gs
    else .exactly g.char :: pieces fuel gs

/-- The texts that are left after dropping characters from the front. -/
def endings : Letters → List Letters
  | [] => [[]]
  | c :: s => (c :: s) :: endings s

/-- The text matches the pieces. -/
def matchPieces : List Piece → Letters → Bool
  | [], s => s.isEmpty
  | .any :: ps, s => ps.isEmpty || (endings s).any fun t => matchPieces ps t
  | .one :: ps, _ :: s => matchPieces ps s
  | .exactly d :: ps, c :: s => c == d && matchPieces ps s
  | .among negated cs :: ps, c :: s =>
    (cs.any (·.contains c) != negated) && matchPieces ps s
  | _ :: _, [] => false

/-- The pieces of a pattern. -/
def piecesOf (pattern : List Glyph) : List Piece :=
  let pattern := withoutBackslashes pattern
  pieces pattern.length pattern

/-- The text matches the pattern. -/
def accepts (pattern : List Glyph) (s : Letters) : Bool := matchPieces (piecesOf pattern) s

/-- The value without a beginning or an end that matches the pattern: the longest or the shortest
one. -/
def cut (atEnd longest : Bool) (pattern : List Glyph) (s : Letters) : Letters :=
  let ps := piecesOf pattern
  let sizes := List.range (s.length + 1)
  let sizes := if longest then sizes.reverse else sizes
  if atEnd then
    match sizes.find? fun k => matchPieces ps (s.drop (s.length - k)) with
    | some k => s.take (s.length - k)
    | none => s
  else
    match sizes.find? fun k => matchPieces ps (s.take k) with
    | some k => s.drop k
    | none => s

/-! ## Names of files -/

/-- One text comes before another, byte by byte. -/
def before : Letters → Letters → Bool
  | [], _ => true
  | _ :: _, [] => false
  | a :: s, b :: t => if a == b then before s t else a.toNat < b.toNat

/-- Brackets are closed further on. -/
def isClosed (gs : List Glyph) : Bool :=
  let gs := match gs with
    | g :: rest => if isActive g '!' then rest else gs
    | [] => gs
  gs.tail.any (isActive · ']')

/-- Some character of the part of a pattern may stand for others. -/
def isProper : List Glyph → Bool
  | [] => false
  | g :: gs => isActive g '*' || isActive g '?' || (isActive g '[' && isClosed gs) || isProper gs

/-- The parts of a pattern between its slashes. -/
def split (pattern : List Glyph) : List (List Glyph) :=
  pattern.foldr (fun g parts =>
    if g.char == '/' then [] :: parts
    else match parts with
      | [] => [[g]]
      | p :: ps => (g :: p) :: ps) [[]]

/-- The paths that match the parts of a pattern, below the path `base`. Names that begin with a dot
only match patterns that do so too. -/
def paths (fs : FileSystem) (base : Letters) : List (List Glyph) → List Letters
  | [] => [base]
  | part :: rest =>
    let under (name : Letters) : Letters := base ++ name ++ if rest.isEmpty then [] else ['/']
    if isProper part then
      let dir := Letters.bytes (if base.isEmpty then ['.'] else base)
      match fs.lookup dir, fs.locate dir with
      | .ok .dir, .ok spot =>
        let names := ['.'] :: ['.', '.'] :: (fs.names spot).map Letters.ofBytes
        let dotted := (part.head?.map (·.char)) == some '.'
        let ps := piecesOf part
        let hits := names.filter fun name =>
          (name.head? != some '.' || dotted) && matchPieces ps name
        hits.flatMap fun name => paths fs (under name) rest
      | _, _ => []
    else
      let p := under (part.map (·.char))
      if rest.isEmpty && !fs.exists? (Letters.bytes p) then [] else paths fs p rest

/-- The paths that a word stands for: the files that match it, or else nothing. -/
def expand (fs : FileSystem) (w : List Glyph) : List Letters :=
  let parts := split (withoutBackslashes w)
  if parts.any isProper then (paths fs [] parts).mergeSort before else []

/-- The word may stand for the names of files. -/
def mayMatch (w : List Glyph) : Bool :=
  w.any fun g => g.active && (g.char == '*' || g.char == '?' || g.char == '[')

end Pattern

end LintDispatch.Shell
