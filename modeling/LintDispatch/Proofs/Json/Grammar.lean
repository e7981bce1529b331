import LintDispatch.Json.Skip

/-!
# The grammar of JSON texts
Which texts stand for which values, said without a reader. A relation such as `StringText` holds of
a value and the texts that spell it; a relation is handed to `ListText` or `RecordText` to say what
the elements of a list or the fields of a record are. Blanks may stand around every element, and
nowhere inside a string or a number.

Every spelling counts: a character stands for itself or is escaped, and the keys of a record stand
in any order, with keys in between that the record does not know. What stands under such a key is
any JSON value (`IsValue`).
-/

namespace LintDispatch.Json

variable {α : Type}

/-- There are blanks and nothing else. -/
def Blanks (t : Bytes) : Prop := ∀ b ∈ t, isSpace b = true

/-- There are digits and nothing else, and at least one. -/
def Numerals (t : Bytes) : Prop := t ≠ [] ∧ ∀ b ∈ t, isDigit b = true

/-! ## Strings -/

/-- The spellings of a character inside a string. -/
inductive CharText : Char → Bytes → Prop
  /-- The character itself. -/
  | plain {c : Char} (control : 0x20 ≤ c.toNat) (quote : c ≠ '"') (backslash : c ≠ '\\') :
      CharText c (String.utf8EncodeChar c)
  /-- A letter after a backslash. -/
  | short {c : Char} {letter b : UInt8} (escape : simpleEscape? letter = some b)
      (char : c.toNat = b.toNat) : CharText c [backslash, letter]
  /-- The code point. -/
  | code {c : Char} {w x y z : UInt8} (digits : hexFour? w x y z = some c.toNat) :
      CharText c [backslash, 117, w, x, y, z]
  /-- The code point as a surrogate pair. -/
  | pair {c : Char} {w x y z w' x' y' z' : UInt8} {high low : Nat}
      (digits : hexFour? w x y z = some high) (digits' : hexFour? w' x' y' z' = some low)
      (isHigh : isHighSurrogate high = true) (isLow : isLowSurrogate low = true)
      (char : c.toNat = surrogatePair high low) :
      CharText c [backslash, 117, w, x, y, z, backslash, 117, w', x', y', z']

/-- The spellings of characters one after the other. -/
inductive CharsText : List Char → Bytes → Prop
  | nil : CharsText [] []
  | cons {c : Char} {cs : List Char} {t u : Bytes} (head : CharText c t) (tail : CharsText cs u) :
      CharsText (c :: cs) (t ++ u)

/-- The spellings of a string. -/
def StringText (s : String) (t : Bytes) : Prop :=
  ∃ body, CharsText s.toList body ∧ t = quote :: body ++ [quote]

/-- What may stand between the quotes of a string that nobody decodes: its escapes need not make up
characters, and its bytes need not be UTF-8. -/
inductive RawBody : Bytes → Prop
  | nil : RawBody []
  | plain {b : UInt8} {t : Bytes} (control : 0x20 ≤ b) (quote : b ≠ quote)
      (backslash : b ≠ backslash) (tail : RawBody t) : RawBody (b :: t)
  | short {letter : UInt8} {t : Bytes} (escape : (simpleEscape? letter).isSome = true)
      (tail : RawBody t) : RawBody (backslash :: letter :: t)
  | code {w x y z : UInt8} {t : Bytes} (digits : (hexFour? w x y z).isSome = true)
      (tail : RawBody t) : RawBody (backslash :: 117 :: w :: x :: y :: z :: t)

/-- A string that nobody decodes. -/
def RawString (t : Bytes) : Prop := ∃ body, RawBody body ∧ t = quote :: body ++ [quote]

/-! ## Words and numbers -/

/-- The spelling of a truth value. -/
def BoolText (b : Bool) (t : Bytes) : Prop :=
  t = if b then 116 :: restOfTrue else 102 :: restOfFalse

/-- The spellings of a value that may be null. -/
def NullableText (item : α → Bytes → Prop) : Option α → Bytes → Prop
  | none, t => t = 110 :: restOfNull
  | some a, t => item a t

/-- The whole part of a number: no zero stands before another digit. -/
def Whole (t : Bytes) : Prop := Numerals t ∧ (t.head? = some 48 → t = [48])

/-- The spelling of a natural number. -/
def NatText (n : Nat) (t : Bytes) : Prop :=
  Whole t ∧ t.foldl (fun n d => n * 10 + digitValue d) 0 = n

/-- The digits after the point, if there are any. -/
def Fraction (t : Bytes) : Prop := t = [] ∨ ∃ ds, Numerals ds ∧ t = 46 :: ds

/-- The exponent, if there is one. -/
def Exponent (t : Bytes) : Prop :=
  t = [] ∨ ∃ e sign ds, (e = 101 ∨ e = 69) ∧ (sign = [] ∨ sign = [43] ∨ sign = [45]) ∧
    Numerals ds ∧ t = e :: sign ++ ds

/-- A number of any size. -/
def NumberText (t : Bytes) : Prop :=
  ∃ sign whole fraction exponent, (sign = [] ∨ sign = [45]) ∧ Whole whole ∧ Fraction fraction ∧
    Exponent exponent ∧ t = sign ++ whole ++ fraction ++ exponent

/-! ## Lists and objects -/

/-- The spellings of a value with blanks around it. -/
def Padded (item : α → Bytes → Prop) (a : α) (t : Bytes) : Prop :=
  ∃ before core after, Blanks before ∧ item a core ∧ Blanks after ∧ t = before ++ core ++ after

/-- The spellings of at least one value, with commas between neighbours. -/
inductive Separated (item : α → Bytes → Prop) : List α → Bytes → Prop
  | last {a : α} {t : Bytes} (head : item a t) : Separated item [a] t
  | cons {a : α} {as : List α} {t u : Bytes} (head : item a t) (tail : Separated item as u) :
      Separated item (a :: as) (t ++ comma :: u)

/-- Separated values begin as the first of them does. -/
theorem Separated.exists_head {item : α → Bytes → Prop} {as : List α} {t : Bytes}
    (h : Separated (Padded item) as t) :
    ∃ a ∈ as, ∃ before core more, Blanks before ∧ item a core ∧ t = before ++ (core ++ more) := by
  cases h with
  | @last a t head =>
    obtain ⟨before, core, after, hb, hcore, -, rfl⟩ := head
    exact ⟨a, by simp, before, core, after, hb, hcore, List.append_assoc ..⟩
  | @cons a as t u head tail =>
    obtain ⟨before, core, after, hb, hcore, -, rfl⟩ := head
    refine ⟨a, by simp, before, core, after ++ comma :: u, hb, hcore, ?_⟩
    simp only [List.append_assoc]

/-- The spellings of values between brackets. -/
inductive Bracketed (opening closing : UInt8) (item : α → Bytes → Prop) : List α → Bytes → Prop
  | empty {t : Bytes} (blanks : Blanks t) :
      Bracketed opening closing item [] (opening :: t ++ [closing])
  | filled {as : List α} {t : Bytes} (items : Separated (Padded item) as t) :
      Bracketed opening closing item as (opening :: t ++ [closing])

/-- The spellings of a list. -/
def ListText (item : α → Bytes → Prop) : List α → Bytes → Prop :=
  Bracketed openBracket closeBracket item

/-- The spellings of a key and what stands before the value under it. -/
def KeyText (string : Bytes → Prop) (t : Bytes) : Prop :=
  ∃ key before after, string key ∧ Blanks before ∧ Blanks after ∧
    t = key ++ before ++ colon :: after

/-- The bracket that opens a frame. -/
def Frame.opening : Frame → UInt8
  | .list => openBracket
  | .object => openBrace

/-- What stands before a value inside a frame: in an object, its key. -/
def Frame.Lead : Frame → Bytes → Prop
  | .list, t => t = []
  | .object, t => KeyText RawString t

/-- The text of a value inside a frame, with what stands before it. -/
def Frame.Item (frame : Frame) (value t : Bytes) : Prop :=
  ∃ lead, frame.Lead lead ∧ t = lead ++ value

/-- The text is a JSON value of whatever kind. -/
inductive IsValue : Bytes → Prop
  | null : IsValue (110 :: restOfNull)
  | bool {b : Bool} {t : Bytes} (h : BoolText b t) : IsValue t
  | number {t : Bytes} (h : NumberText t) : IsValue t
  | string {t : Bytes} (h : RawString t) : IsValue t
  /-- A list or an object, with the texts of the values in it. -/
  | bracketed {frame : Frame} {values : List Bytes} {t : Bytes}
      (h : Bracketed frame.opening frame.close frame.Item values t)
      (hvalues : ∀ v ∈ values, IsValue v) : IsValue t

/-! ## Records -/

/-- The text of a key and of the value under it. -/
def MemberText (member : String × Bytes) (t : Bytes) : Prop :=
  ∃ key, KeyText (StringText member.1) key ∧ t = key ++ member.2

/-- How one field of a record is written. -/
structure Entry where
  name : String
  /-- The spellings of its value. -/
  Text : Bytes → Prop
  /-- The field may be left out. -/
  Optional : Prop := False

/-- The fields of a record among the members of an object, in the order of the members. -/
def known (entries : List Entry) (members : List (String × Bytes)) : List String :=
  (members.map Prod.fst).filter (· ∈ entries.map Entry.name)

/-- The members of an object are the fields of a record and keys that it does not know. -/
structure Describes (entries : List Entry) (members : List (String × Bytes)) : Prop where
  written : ∀ m ∈ members, ∀ e ∈ entries, e.name = m.1 → e.Text m.2
  unknown : ∀ m ∈ members, m.1 ∉ entries.map Entry.name → IsValue m.2
  /-- No field is written twice. -/
  once : (known entries members).Nodup
  complete : ∀ e ∈ entries, e.name ∈ known entries members ∨ e.Optional

/-- The spellings of a record as an object. -/
def RecordText (entries : List Entry) (t : Bytes) : Prop :=
  ∃ members, Describes entries members ∧ Bracketed openBrace closeBrace MemberText members t

end LintDispatch.Json
