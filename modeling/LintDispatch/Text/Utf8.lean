import LintDispatch.Text.Bytes

/-!
# Reading bytes as UTF-8
A decoder walks over the bytes and cuts them into pieces. A piece is a well-formed character or a
broken stretch: the longest start of a character that the next byte does not continue, or a single
byte that starts no character. `decode?` accepts bytes without broken pieces; `lossy` shows each
broken piece as U+FFFD, however long it is.
-/

namespace LintDispatch.Utf8

/-- A stretch of bytes as the decoder cuts them. -/
inductive Piece where
  /-- A well-formed character. -/
  | char (c : Char)
  /-- A maximal ill-formed stretch. -/
  | broken (bytes : Bytes)
  deriving DecidableEq, Repr, Inhabited

/-- The bytes that the piece was cut from. -/
def Piece.bytes : Piece → Bytes
  | .char c => String.utf8EncodeChar c
  | .broken bs => bs

/-- The character that stands for the piece in a text. -/
def Piece.shown : Piece → Char
  | .char c => c
  | .broken _ => '\uFFFD'

/-- What a lead byte promises: the bits of the code point that it carries and, for each byte that
must follow, the least and the greatest value allowed. A byte that starts no character promises
nothing. -/
def lead? (b : UInt8) : Option (Nat × List (UInt8 × UInt8)) :=
  if b < 0x80 then some (b.toNat, [])
  else if b < 0xC2 then none
  else if b < 0xE0 then some (b.toNat - 0xC0, [(0x80, 0xBF)])
  else if b == 0xE0 then some (0, [(0xA0, 0xBF), (0x80, 0xBF)])
  else if b == 0xED then some (0xD, [(0x80, 0x9F), (0x80, 0xBF)])
  else if b < 0xF0 then some (b.toNat - 0xE0, [(0x80, 0xBF), (0x80, 0xBF)])
  else if b == 0xF0 then some (0, [(0x90, 0xBF), (0x80, 0xBF), (0x80, 0xBF)])
  else if b < 0xF4 then some (b.toNat - 0xF0, [(0x80, 0xBF), (0x80, 0xBF), (0x80, 0xBF)])
  else if b == 0xF4 then some (4, [(0x80, 0x8F), (0x80, 0xBF), (0x80, 0xBF)])
  else none

/-- A character that is not complete yet. -/
structure Partial where
  /-- The bytes read so far. -/
  seen : Bytes := []
  /-- The bits of the code point read so far. -/
  value : Nat := 0
  /-- The bytes still to come. Between two characters there are none. -/
  awaited : List (UInt8 × UInt8) := []
  deriving DecidableEq, Repr

namespace Partial

/-- A byte read between two characters. -/
def begin (b : UInt8) : Partial × List Piece :=
  match lead? b with
  | none => ({}, [.broken [b]])
  | some (v, []) => ({}, [.char (Char.ofNat v)])
  | some (v, rs) => (⟨[b], v, rs⟩, [])

/-- One more byte: it continues the character, or it ends it as broken and starts afresh. -/
def feed (d : Partial) (b : UInt8) : Partial × List Piece :=
  match d.awaited with
  | [] => begin b
  | (lo, hi) :: rest =>
    if lo ≤ b ∧ b ≤ hi then
      let v := d.value * 64 + (b.toNat - 0x80)
      match rest with
      | [] => ({}, [.char (Char.ofNat v)])
      | _ => (⟨d.seen ++ [b], v, rest⟩, [])
    else
      let (d', ps) := begin b
      (d', .broken d.seen :: ps)

/-- The end of the bytes: an unfinished character is broken. -/
def finish (d : Partial) : List Piece :=
  if d.awaited.isEmpty then [] else [.broken d.seen]

end Partial

/-- Cuts the bytes after the unfinished character `d`; `out` holds the earlier pieces, last one
first. -/
def piecesFrom (out : List Piece) (d : Partial) : Bytes → List Piece
  | [] => out.reverse ++ d.finish
  | b :: bs => piecesFrom ((d.feed b).2.reverse ++ out) (d.feed b).1 bs

/-- The pieces of the bytes, in order. -/
def pieces (bs : Bytes) : List Piece := piecesFrom [] {} bs

/-- The text of the bytes, with U+FFFD for each broken piece. -/
def lossy (bs : Bytes) : String := String.ofList ((pieces bs).map Piece.shown)

/-- No piece is broken. -/
def isValid (bs : Bytes) : Bool :=
  (pieces bs).all fun
    | .char _ => true
    | .broken _ => false

/-- The text of the bytes, if they are well-formed UTF-8. -/
def decode? (bs : Bytes) : Option String :=
  if isValid bs then some (lossy bs) else none

/-- How many bytes stand before the first broken piece. -/
def validLength (bs : Bytes) : Nat :=
  ((pieces bs).takeWhile fun
    | .char _ => true
    | .broken _ => false).flatMap (·.bytes) |>.length

/-- Earlier pieces stay in front of those still to be cut. -/
theorem piecesFrom_eq (out : List Piece) (d : Partial) (bs : Bytes) :
    piecesFrom out d bs = out.reverse ++ piecesFrom [] d bs := by
  induction bs generalizing out d with
  | nil => simp [piecesFrom]
  | cons b bs ih =>
    rw [piecesFrom, ih, piecesFrom, ih ((d.feed b).2.reverse ++ [])]
    simp

end LintDispatch.Utf8
