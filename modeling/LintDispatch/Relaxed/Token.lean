import LintDispatch.Json.Token
import LintDispatch.Text.Alphanumeric
import LintDispatch.Text.Blank

/-!
# Tokens of relaxed JSON
Settings files are written in JSON with some freedom: comments, strings between single quotes, bare
words as keys, a plus sign, hexadecimal numbers. A token is read on demand, so a fault in it is
reported only if everything before it is in order. Places count characters.
-/

namespace LintDispatch.Relaxed

open Json (hexFour?)

/-- What is wrong with a text. -/
inductive Complaint where
  | unterminatedComment
  | unterminatedString
  | unterminatedObject
  | unterminatedArray
  | unexpectedToken
  | unexpectedTokenInObject
  | unexpectedCloseBracket
  | unexpectedCloseBrace
  | unexpectedComma
  | unexpectedColon
  | unexpectedWord
  | expectedColon
  | expectedValue
  | expectedDigit
  | expectedDigitAfterSign
  | expectedExponent
  | expectedFourHexDigits
  | invalidEscape
  | invalidEscapeInSingle
  | invalidEscapeInDouble
  /-- A surrogate code point without its partner: its digits as written, and what is wrong. -/
  | invalidUnicode (digits problem : String)
  | moreThanOneValue
  deriving DecidableEq, Repr

/-- The wording of a complaint. -/
def Complaint.message : Complaint → String
  | unterminatedComment => "Unterminated comment block"
  | unterminatedString => "Unterminated string literal"
  | unterminatedObject => "Unterminated object"
  | unterminatedArray => "Unterminated array"
  | unexpectedToken => "Unexpected token"
  | unexpectedTokenInObject => "Unexpected token in object"
  | unexpectedCloseBracket => "Unexpected close bracket"
  | unexpectedCloseBrace => "Unexpected close brace"
  | unexpectedComma => "Unexpected comma"
  | unexpectedColon => "Unexpected colon"
  | unexpectedWord => "Unexpected word"
  | expectedColon => "Expected colon after the string or word in object property"
  | expectedValue => "Expected value after colon in object property"
  | expectedDigit => "Expected digit"
  | expectedDigitAfterSign => "Expected digit following negative sign"
  | expectedExponent => "Expected plus, minus, or digit in number literal"
  | expectedFourHexDigits => "Expected four hex digits"
  | invalidEscape => "Invalid escape"
  | invalidEscapeInSingle => "Invalid escape in single quote string"
  | invalidEscapeInDouble => "Invalid escape in double quote string"
  | invalidUnicode digits problem =>
    "Invalid unicode escape sequence. '" ++ digits ++ " (" ++ problem ++
      ")' is not a valid UTF8 character"
  | moreThanOneValue => "Text cannot contain more than one JSON value"

/-- A complaint and the number of characters before the place it is about. -/
structure Fault where
  what : Complaint
  index : Nat
  deriving DecidableEq, Repr

/-- The text of a fault found in `text`, with its line and column counted from one. -/
def Fault.message (f : Fault) (text : String) : String :=
  let before := text.toList.take f.index
  let line := 1 + before.count '\n'
  let column := 1 + (before.reverse.takeWhile (· != '\n')).length
  f.what.message ++ " on line " ++ toString line ++ " column " ++ toString column

/-- A token. -/
inductive Token where
  | openBrace
  | closeBrace
  | openBracket
  | closeBracket
  | comma
  | colon
  | string (s : String)
  | word (s : String)
  | bool (b : Bool)
  | null
  /-- A number as it is written. -/
  | number (s : String)
  deriving DecidableEq, Repr

/-- A place in a text: the number of characters before it and those after it. -/
structure Cursor where
  index : Nat
  rest : List Char
  deriving DecidableEq, Repr

/-- The cursor after some characters. -/
def Cursor.advance (c : Cursor) (n : Nat) : Cursor := ⟨c.index + n, c.rest.drop n⟩

/-- A fault at a place. -/
def fault {α : Type} (what : Complaint) (index : Nat) : Except Fault α := .error ⟨what, index⟩

/-! ## Blanks and comments -/

/-- The length of a comment to the end of the line. -/
def lineCommentLength : List Char → Nat
  | [] => 0
  | '\n' :: _ => 0
  | '\r' :: '\n' :: _ => 0
  | _ :: cs => lineCommentLength cs + 1

/-- The length of the rest of a comment up to and with its closing mark. -/
def blockCommentLength? : List Char → Option Nat
  | [] => none
  | '*' :: '/' :: _ => some 2
  | _ :: cs => (blockCommentLength? cs).map (· + 1)

/-- Passes over white space and comments. The characters that were left at first, `bound`, are an
upper bound for the number of steps. -/
def skipBlanks : (bound : List Char) → Cursor → Except Fault Cursor
  | [], c => .ok c
  | _ :: bound, c =>
    match c.rest with
    | '/' :: '/' :: cs => skipBlanks bound (c.advance (2 + lineCommentLength cs))
    | '/' :: '*' :: cs =>
      match blockCommentLength? cs with
      | some n => skipBlanks bound (c.advance (2 + n))
      | none => fault .unterminatedComment c.index
    | ch :: _ => if Text.isWhite ch then skipBlanks bound (c.advance 1) else .ok c
    | [] => .ok c

/-! ## Strings -/

/-- The character that a letter stands for after a backslash. -/
def simpleEscape? : Char → Option Char
  | '\\' => some '\\'
  | '/' => some '/'
  | 'b' => some '\x08'
  | 'f' => some '\x0c'
  | 'n' => some '\n'
  | 'r' => some '\r'
  | 't' => some '\t'
  | _ => none

/-- Four hexadecimal digits at the start of a text: their value and how they are written. -/
def fourHex? : List Char → Option (Nat × String)
  | a :: b :: c :: d :: _ =>
    if a.toNat < 128 ∧ b.toNat < 128 ∧ c.toNat < 128 ∧ d.toNat < 128 then
      (hexFour? a.toUInt8 b.toUInt8 c.toUInt8 d.toUInt8).map (·, String.ofList [a, b, c, d])
    else none
  | _ => none

/-- The character after a backslash and a `u`, and how many characters it takes; `start` is the
place of the backslash. -/
def unicodeEscape (start : Nat) (cs : List Char) : Except Fault (Char × Nat) :=
  match fourHex? cs with
  | none => fault .expectedFourHexDigits start
  | some (n, digits) =>
    if Json.isHighSurrogate n then
      match cs.drop 4 with
      | '\\' :: 'u' :: more =>
        match fourHex? more with
        | none => fault .expectedFourHexDigits start
        | some (low, _) =>
          if Json.isLowSurrogate low then .ok (Char.ofNat (Json.surrogatePair n low), 10)
          else fault (.invalidUnicode digits "high surrogate not followed by low surrogate") start
      | _ => fault (.invalidUnicode digits "unpaired high surrogate") start
    else if Json.isLowSurrogate n then
      fault (.invalidUnicode digits "unpaired low surrogate") start
    else .ok (Char.ofNat n, 4)

/-- The character after a backslash, and how many characters it takes; `start` is the place of the
backslash and `mark` the quote that the string is written with. -/
def escape (mark : Char) (start : Nat) : List Char → Except Fault (Option (Char × Nat))
  | [] => .ok none
  | '"' :: _ => if mark = '"' then .ok (some ('"', 1)) else fault .invalidEscapeInSingle start
  | '\'' :: _ => if mark = '\'' then .ok (some ('\'', 1)) else fault .invalidEscapeInDouble start
  | 'u' :: cs =>
    match unicodeEscape start cs with
    | .ok (ch, n) => .ok (some (ch, n + 1))
    | .error f => .error f
  | ch :: _ =>
    match simpleEscape? ch with
    | some e => .ok (some (e, 1))
    | none => fault .invalidEscape start

/-- The rest of a string that began at `start` with `mark`; `taken` holds its characters so far,
last one first. The characters that were left at first, `bound`, are an upper bound for the number
of steps. -/
def stringFrom (mark : Char) (start : Nat) :
    (bound : List Char) → (taken : List Char) → Cursor → Except Fault (String × Cursor)
  | [], _, _ => fault .unterminatedString start
  | _ :: bound, taken, c =>
    match c.rest with
    | [] => fault .unterminatedString start
    | '\\' :: cs =>
      match escape mark c.index cs with
      | .error f => .error f
      | .ok none => fault .unterminatedString start
      | .ok (some (ch, n)) => stringFrom mark start bound (ch :: taken) (c.advance (n + 1))
    | ch :: _ =>
      if ch = mark then .ok (String.ofList taken.reverse, c.advance 1)
      else stringFrom mark start bound (ch :: taken) (c.advance 1)

/-! ## Numbers and words -/

/-- The length of the decimal digits at the start of a text. -/
def digitsLength (cs : List Char) : Nat := (cs.takeWhile Char.isDigit).length

/-- A hexadecimal digit. -/
def isHexDigit (c : Char) : Bool :=
  c.isDigit || ('a' ≤ c && c ≤ 'f') || ('A' ≤ c && c ≤ 'F')

/-- The length of a point and its digits at `index`, if there is a point. -/
def fractionLength (index : Nat) : List Char → Except Fault Nat
  | '.' :: cs => if digitsLength cs = 0 then fault .expectedDigit (index + 1)
    else .ok (1 + digitsLength cs)
  | _ => .ok 0

/-- The length of an exponent at `index`, if there is one. -/
def exponentLength (index : Nat) : List Char → Except Fault Nat
  | e :: cs =>
    if e = 'e' ∨ e = 'E' then
      match cs with
      | s :: ds =>
        if s = '+' ∨ s = '-' then
          if digitsLength ds = 0 then fault .expectedDigit (index + 2)
          else .ok (2 + digitsLength ds)
        else if digitsLength cs = 0 then fault .expectedExponent (index + 1)
        else .ok (1 + digitsLength cs)
      | [] => fault .expectedExponent (index + 1)
    else .ok 0
  | [] => .ok 0

/-- The length of a number at `index`, without its sign. -/
def unsignedLength (index : Nat) (cs : List Char) : Except Fault Nat :=
  match cs with
  | '0' :: x :: hs =>
    if x = 'x' ∨ x = 'X' then
      let n := (hs.takeWhile isHexDigit).length
      if n = 0 then fault .expectedDigit (index + 2) else .ok (2 + n)
    else decimal 1
  | '0' :: [] => decimal 1
  | _ =>
    let n := digitsLength cs
    if n = 0 then fault .expectedDigitAfterSign index else decimal n
where
  /-- The length of a decimal number with this many digits before the point. -/
  decimal (whole : Nat) : Except Fault Nat := do
    let f ← fractionLength (index + whole) (cs.drop whole)
    let e ← exponentLength (index + whole + f) (cs.drop (whole + f))
    return whole + f + e

/-- A number, with its sign. -/
def number (c : Cursor) : Except Fault (Token × Cursor) := do
  let sign := match c.rest with
    | '+' :: _ | '-' :: _ => 1
    | _ => 0
  let n ← unsignedLength (c.index + sign) (c.rest.drop sign)
  return (.number (String.ofList (c.rest.take (sign + n))), c.advance (sign + n))

/-- The character ends a word. -/
def endsWord (ch : Char) : Bool := Text.isWhite ch || ch == ':'

/-- The character may stand in a word. -/
def isWordChar (ch : Char) : Bool := Text.isAlphanumeric ch || ch == '-' || ch == '_'

/-- A bare word. -/
def bareWord (c : Cursor) : Except Fault (Token × Cursor) :=
  let w := c.rest.takeWhile fun ch => !endsWord ch
  if w.all isWordChar then .ok (.word (String.ofList w), c.advance w.length)
  else fault .unexpectedToken c.index

/-- The reserved words and what they stand for. -/
def reserved : List (List Char × Token) :=
  [(['t', 'r', 'u', 'e'], .bool true), (['f', 'a', 'l', 's', 'e'], .bool false),
    (['n', 'u', 'l', 'l'], .null)]

/-- A reserved word, unless a letter or number follows it. -/
def reservedWord? (c : Cursor) : Option (Token × Cursor) :=
  reserved.findSome? fun (w, t) =>
    if w.isPrefixOf c.rest ∧ !((c.rest.drop w.length).head?.any Text.isAlphanumeric) then
      some (t, c.advance w.length)
    else none

/-- A reserved or a bare word. -/
def word (c : Cursor) : Except Fault (Token × Cursor) :=
  match reservedWord? c with
  | some r => .ok r
  | none => bareWord c

/-! ## Tokens -/

/-- A mark of punctuation. -/
def punctuation? : Char → Option Token
  | '\x7b' => some .openBrace
  | '\x7d' => some .closeBrace
  | '[' => some .openBracket
  | ']' => some .closeBracket
  | ',' => some .comma
  | ':' => some .colon
  | _ => none

/-- The token that begins with the next character. -/
def token (c : Cursor) : Except Fault (Token × Cursor) :=
  match c.rest with
  | [] => fault .unexpectedToken c.index
  | ch :: cs =>
    match punctuation? ch with
    | some t => .ok (t, c.advance 1)
    | none =>
      if ch = '"' ∨ ch = '\'' then do
        let (s, c') ← stringFrom ch c.index cs [] (c.advance 1)
        return (.string s, c')
      else if ch = '/' then fault .unexpectedToken c.index
      else if ch = '-' ∨ ch = '+' ∨ ch.isDigit then number c
      else word c

/-- The next token, if there is one, and where it begins. At the end of the text that is its
length. -/
def next (c : Cursor) : Except Fault ((Option Token × Nat) × Cursor) := do
  let c ← skipBlanks c.rest c
  if c.rest.isEmpty then return ((none, c.index), c)
  else
    let (t, c') ← token c
    return ((some t, c.index), c')

end LintDispatch.Relaxed
