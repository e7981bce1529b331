/-!
# Byte strings
Paths, arguments and report files are byte strings: nothing promises that they are text. Every
length in the library counts bytes.
-/

namespace LintDispatch

/-- A byte string. -/
abbrev Bytes := List UInt8

namespace Bytes

/-- The UTF-8 form of a text. -/
def ofString (s : String) : Bytes := s.toList.flatMap String.utf8EncodeChar

/-- The blanks that a report may consist of: space, tab, line feed, form feed, carriage return. -/
def isBlankByte (b : UInt8) : Bool := b == 32 || b == 9 || b == 10 || b == 12 || b == 13

/-- There is nothing but blanks. -/
def allBlank (bs : Bytes) : Bool := bs.all isBlankByte

@[simp] theorem allBlank_nil : allBlank [] = true := rfl

@[simp] theorem allBlank_cons (b : UInt8) (bs : Bytes) :
    allBlank (b :: bs) = (isBlankByte b && allBlank bs) := rfl

/-- The pieces between the occurrences of `sep`. -/
def splitOn (sep : UInt8) : Bytes → List Bytes
  | [] => [[]]
  | b :: bs =>
    if b == sep then [] :: splitOn sep bs
    else match splitOn sep bs with
      | [] => [[b]]
      | p :: ps => (b :: p) :: ps

/-- The byte strings written one after the other, with `sep` between neighbours. -/
def join (sep : Bytes) : List Bytes → Bytes
  | [] => []
  | [p] => p
  | p :: ps => p ++ sep ++ join sep ps

end Bytes

end LintDispatch
