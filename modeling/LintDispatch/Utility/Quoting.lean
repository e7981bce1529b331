import LintDispatch.Utility.Glyph

/-!
# Quoted names
A message shows a name so that a shell would read it back: in quotes if it needs them, and with what
cannot be seen as escapes. An argument that makes no sense is shown in typographic quotes with
backslashes.
-/

namespace LintDispatch.Utility

/-- The letter for a control character after a backslash. -/
def controlLetter? (c : Char) : Option Char :=
  match c with
  | '\x07' => some 'a'
  | '\x08' => some 'b'
  | '\x0c' => some 'f'
  | '\n' => some 'n'
  | '\r' => some 'r'
  | '\t' => some 't'
  | '\x0b' => some 'v'
  | _ => none

/-- A backslash and three octal digits. -/
def octalEscape (c : Char) : Letters :=
  let n := c.toNat
  ['\\', Char.ofNat (48 + n / 64 % 8), Char.ofNat (48 + n / 8 % 8), Char.ofNat (48 + n % 8)]

/-- A backslash and what stands for a letter that cannot be seen. -/
def backslashed (c : Char) : Letters :=
  match controlLetter? c with
  | some l => ['\\', l]
  | none => octalEscape c

/-- The letters of a text in typographic quotes. -/
def inQuotes (s : Letters) : Letters := Letters.ofText "‘" ++ s ++ Letters.ofText "’"

/-- An argument in quotes, with backslashes before what would be misread. -/
def quote (s : Letters) : Letters :=
  inQuotes ((glyphs s).flatMap fun g =>
    if g.letters == Letters.ofText "’" || g.letters == ['\\'] then '\\' :: g.letters
    else if g.isSeen then g.letters
    else g.letters.flatMap backslashed)

/-- A shell reads the glyph as it is, wherever it stands. -/
def isPlain (g : Glyph) : Bool :=
  match g.letters with
  | [c] => c.isAlphanum || "%+,-./:@]_".toList.contains c
  | _ => g.isSeen

/-- A shell reads the name as it is. -/
def needsNoQuotes (s : Letters) : Bool :=
  match glyphs s with
  | [] => false
  | g :: gs =>
    let isBrace (g : Glyph) : Bool := g.letters == ['{'] || g.letters == ['}']
    let isMark (g : Glyph) : Bool := g.letters == ['#'] || g.letters == ['~']
    (isPlain g || (isBrace g && !gs.isEmpty)) && gs.all fun g => isPlain g || isBrace g || isMark g

/-- Double quotes are enough for the name. -/
def fitsDoubleQuotes (s : Letters) : Bool :=
  let isHarmless (g : Glyph) : Bool := isPlain g || g.letters == ['\''] || g.letters == [' ']
  match glyphs s with
  | [] => true
  | g :: gs => (isHarmless g || g.letters == ['#'] || g.letters == ['~']) && gs.all isHarmless

/-- What stands inside single quotes for some glyphs; what cannot be seen stands outside, in quotes of
its own. `escaping` says that such quotes are open, and the answer whether they are in the end. -/
def shellLetters (escaping : Bool) : List Glyph → Letters × Bool
  | [] => ([], escaping)
  | g :: gs =>
    let (now, next) : Letters × Bool :=
      if g.letters == ['\''] then (['\'', '\\', '\'', '\''], false)
      else if g.isSeen then ((if escaping then ['\'', '\''] else []) ++ g.letters, false)
      else ((if escaping then [] else ['\'', '$', '\'']) ++ g.letters.flatMap backslashed, true)
    let (rest, last) := shellLetters next gs
    (now ++ rest, last)

/-- A name in quotes that a shell would read back. If the name has quotes itself, it is gone through
twice, and the second time begins as the first one ended. -/
def quoteName (s : Letters) : Letters :=
  if s.contains '\'' && fitsDoubleQuotes s then '"' :: s ++ ['"']
  else
    let gs := glyphs s
    let (text, last) := shellLetters false gs
    '\'' :: (if s.contains '\'' then (shellLetters last gs).1 else text) ++ ['\'']

/-- A name, in quotes only if a shell would need them. -/
def quoteForShell (s : Letters) : Letters := if needsNoQuotes s then s else quoteName s

/-- A name, in quotes only if it needs them: in front of what is said about it a colon would confuse,
too. -/
def quoteIfNeeded (s : Letters) : Letters :=
  if s.contains ':' then quoteName s else quoteForShell s

end LintDispatch.Utility
