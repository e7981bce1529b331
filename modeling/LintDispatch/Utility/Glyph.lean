import LintDispatch.Machine.Letters
import LintDispatch.Text.Screen

/-!
# Glyphs
A glyph is what several letters show together: in UTF-8 a character beyond ASCII takes two letters or
more. Letters that spell no character stay alone, and the beginning of a character at the end of a
text is a glyph that is not complete. No letter is lost: `flatMap_letters_glyphs`.
-/

namespace LintDispatch.Utility

/-- What letters show. -/
inductive Sight where
  /-- A character with its code point. -/
  | char (code : Nat)
  /-- No character. -/
  | stray
  /-- The beginning of a character. -/
  | unfinished
  deriving DecidableEq, Repr, Inhabited

/-- Letters that belong together. -/
structure Glyph where
  letters : Letters
  sight : Sight
  deriving DecidableEq, Repr, Inhabited

namespace Glyph

/-- How many letters a character has that begins with this one; none if no character does. -/
def length (c : Char) : Nat :=
  let n := c.toNat
  if n < 0x80 then 1
  else if n < 0xC2 then 0
  else if n < 0xE0 then 2
  else if n < 0xF0 then 3
  else if n < 0xF8 then 4
  else if n < 0xFC then 5
  else if n < 0xFE then 6
  else 0

/-- The letter goes on with a character. -/
def continues (c : Char) : Bool := 0x80 ≤ c.toNat && c.toNat < 0xC0

/-- The code point that the letters of a character spell. -/
def code (first : Char) (rest : Letters) : Nat :=
  let lead := if rest.isEmpty then first.toNat else first.toNat % Nat.pow 2 (6 - rest.length)
  rest.foldl (fun n c => n * 64 + c.toNat % 64) lead

/-- A code point could be spelled with fewer letters, or is none at all. -/
def isMisspelled (letters code : Nat) : Bool :=
  (2 < letters && code < Nat.pow 2 (5 * letters - 4)) || (0xD800 ≤ code && code < 0xE000)

/-- What a letter and those after it begin with. -/
def sightAt (c : Char) (s : Letters) : Sight :=
  let n := length c
  let rest := s.take (n - 1)
  if n == 0 || !rest.all continues then .stray
  else if rest.length + 1 < n then .unfinished
  else if isMisspelled n (code c rest) then .stray
  else .char (code c rest)

/-- The glyph that a letter and those after it begin with. -/
def first (c : Char) (s : Letters) : Glyph :=
  match sightAt c s with
  | .char code => ⟨c :: s.take (length c - 1), .char code⟩
  | .stray => ⟨[c], .stray⟩
  | .unfinished => ⟨c :: s, .unfinished⟩

/-- The glyph can be seen. -/
def isSeen (g : Glyph) : Bool :=
  match g.sight with
  | .char code => Text.isSeen code
  | _ => false

end Glyph

/-- The glyphs of a text. -/
def glyphs : Letters → List Glyph
  | [] => []
  | c :: s =>
    let g := Glyph.first c s
    g :: glyphs (s.drop (g.letters.length - 1))
termination_by s => s.length
decreasing_by simp only [List.length_drop, List.length_cons]; omega

/-- Goes through the glyphs of a text. -/
def foldGlyphs {σ : Type} (f : σ → Glyph → σ) (init : σ) : Letters → σ
  | [] => init
  | c :: s =>
    let g := Glyph.first c s
    foldGlyphs f (f init g) (s.drop (g.letters.length - 1))
termination_by s => s.length
decreasing_by simp only [List.length_drop, List.length_cons]; omega

theorem foldGlyphs_eq_foldl {σ : Type} (f : σ → Glyph → σ) (init : σ) (s : Letters) :
    foldGlyphs f init s = (glyphs s).foldl f init := by
  induction s using glyphs.induct generalizing init with
  | case1 => simp [glyphs, foldGlyphs]
  | case2 c s g ih => rw [foldGlyphs, glyphs, List.foldl_cons, ih]

theorem Glyph.letters_first_append (c : Char) (s : Letters) :
    (Glyph.first c s).letters ++ s.drop ((Glyph.first c s).letters.length - 1) = c :: s := by
  unfold Glyph.first
  split
  · rcases Nat.le_total (length c - 1) s.length with h | h
    · simp [Nat.min_eq_left h]
    · simp [List.take_of_length_le h]
  · simp
  · simp

/-- No letter is lost. -/
theorem flatMap_letters_glyphs (s : Letters) : (glyphs s).flatMap Glyph.letters = s := by
  induction s using glyphs.induct with
  | case1 => simp [glyphs]
  | case2 c s g ih =>
    rw [glyphs, List.flatMap_cons, ih]
    exact Glyph.letters_first_append c s

end LintDispatch.Utility
