import LintDispatch.Shell.Pattern

/-!
# Fields
An expanded word is a list of stretches. What came out of parameters and commands without quotes is
split at separators, and a list of arguments at the gaps between them. So a word becomes any number
of fields; a field is there, even if it is empty, if something was quoted in it.
-/

namespace LintDispatch.Shell

/-- A piece of an expanded word. -/
inductive Atom where
  | char (g : Glyph)
  /-- Something was quoted here, be it nothing. -/
  | mark
  /-- One argument ends and the next one begins. -/
  | gap
  deriving DecidableEq, Repr, Inhabited

/-- Where a stretch of a word may be split. -/
inductive Splits where
  | nowhere
  | atSeparators
  | atGaps
  deriving DecidableEq, Repr, Inhabited

/-- A stretch of an expanded word. -/
structure Stretch where
  splits : Splits := .nowhere
  atoms : List Atom
  deriving DecidableEq, Repr, Inhabited

/-- The stretch of a value: in quotes it stays what it is. -/
def Stretch.ofValue (quoted : Bool) (s : Letters) : Stretch :=
  ⟨if quoted then .nowhere else .atSeparators, s.map fun c => .char ⟨c, !quoted⟩⟩

/-- The glyphs of a field. -/
def glyphsOf (atoms : List Atom) : List Glyph :=
  atoms.filterMap fun
    | .char g => some g
    | _ => none

/-- The letters of a field. -/
def lettersOf (atoms : List Atom) : Letters := (glyphsOf atoms).map (·.char)

/-- The glyphs of a word that stays one. -/
def glyphsOfWord (w : List Stretch) : List Glyph := w.flatMap fun s => glyphsOf s.atoms

/-- The letters of a word that stays one. -/
def lettersOfWord (w : List Stretch) : Letters := (glyphsOfWord w).map (·.char)

/-- Where the splitting of a word stands. -/
structure Splitting where
  /-- The fields so far, the last one first. -/
  done : List (List Atom) := []
  /-- The current field, its last atom first. -/
  current : List Atom := []
  /-- A blank has just ended a field. -/
  afterBlank : Bool := false
  /-- The last stretch that was split was one of arguments. -/
  listed : Bool := false
  /-- How many fields there may be, the current one among them, if that is limited. -/
  left : Option Nat := none
  /-- What is kept of the last field if only separators follow. -/
  kept : Option (List Atom) := none
  deriving Inhabited

namespace Splitting

/-- What an atom is when it comes to splitting: a separator, and a blank. -/
def role (separators : Letters) (listed : Bool) : Atom → Bool × Bool
  | .gap => (true, true)
  | .mark => (false, false)
  | .char g =>
    let separates := !listed && separators.contains g.char
    (separates, separates && [' ', '\t', '\n'].contains g.char)

/-- Takes an atom of the last field that there may be. -/
def addLast (s : Splitting) (separates blank : Bool) (a : Atom) : Splitting :=
  let taken := { s with current := a :: s.current }
  if blank then { taken with kept := s.kept.orElse fun _ => some s.current }
  else
    { taken with
      kept := if separates && s.afterBlank then s.kept else none
      afterBlank := false }

/-- Takes an atom that may end the field. `plain` says that blanks around separators do not
count. -/
def add (s : Splitting) (plain separates blank : Bool) (a : Atom) : Splitting :=
  if s.afterBlank && blank then { s with current := [] }
  else if s.afterBlank && separates then { s with current := [], afterBlank := false }
  else if separates then
    let s := if plain then { s with afterBlank := blank } else s
    if s.current.isEmpty && s.afterBlank then { s with afterBlank := false }
    else
      match s.left with
      | some 1 => { s with left := some 0, kept := some s.current, current := a :: s.current }
      | left =>
        { s with
          done := s.current.reverse :: s.done, current := []
          left := left.map (· - 1) }
  else { s with current := a :: s.current, afterBlank := false }

/-- Takes a stretch. -/
def addStretch (separators : Letters) (s : Splitting) (t : Stretch) : Splitting :=
  if t.splits == .nowhere then { s with current := t.atoms.reverse ++ s.current }
  else
    let after := s.listed
    let listed := t.splits == .atGaps
    t.atoms.foldl (fun s a =>
      let (separates, blank) := role separators listed a
      if s.left == some 0 then s.addLast separates blank a
      else s.add (!after && !listed) separates blank a)
      { s with afterBlank := false, listed := listed }

/-- The fields in the end. -/
def fields (s : Splitting) : List (List Atom) :=
  let done :=
    if s.listed then s.current.reverse :: s.done
    else
      let last := s.kept.getD s.current
      if last.isEmpty then s.done else last.reverse :: s.done
  done.reverse

end Splitting

/-- The fields of a word, as many as there are, or at most so many. -/
def fieldsOf (separators : Letters) (limit : Option Nat) (w : List Stretch) : List (List Atom) :=
  (w.foldl (Splitting.addStretch separators) { left := limit }).fields

end LintDispatch.Shell
