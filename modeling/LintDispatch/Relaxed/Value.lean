import LintDispatch.Json.Value
import LintDispatch.Relaxed.Token

/-!
# Values of relaxed JSON
The grammar over the tokens. Commas between elements and fields may be missing and one may stand at
the end. The fields of an object come out sorted by their keys, and of two fields with the same key
the later one counts. A number that fits no 64-bit integer and no double becomes a string of its own
text.
-/

namespace LintDispatch.Relaxed

open Json (Value Number)

/-! ## Numbers -/

/-- The value of a hexadecimal digit. -/
def hexValue (c : Char) : Nat :=
  if c.isDigit then c.toNat - 48 else if 'a' ≤ c then c.toNat - 87 else c.toNat - 55

/-- The number that a hexadecimal text stands for, if it fits a signed 64-bit integer. -/
def hexNumber? (negative : Bool) (digits : List Char) : Option Number :=
  let n := digits.foldl (fun n c => n * 16 + hexValue c) 0
  if n < Nat.pow 2 63 then some (.int (if negative then -(n : Int) else n)) else none

/-- The number that a decimal text without a plus sign stands for. -/
def decimalNumber? (cs : List Char) : Option Number :=
  match Json.number ⟨0, cs.map Char.toUInt8⟩ with
  | .ok n _ => some n
  | .error _ _ => none

/-- The value of a number as it is written. -/
def numberValue (s : String) : Value :=
  let cs := s.toList
  let negative := cs.head? == some '-'
  let plain := if cs.head? == some '+' then cs.drop 1 else cs
  let bare := if negative then cs.drop 1 else plain
  let n := match bare with
    | '0' :: 'x' :: hs => hexNumber? negative hs
    | '0' :: 'X' :: hs => hexNumber? negative hs
    | _ => decimalNumber? plain
  match n with
  | some n => .number n
  | none => .string s

/-! ## Objects -/

/-- Adds a field to sorted ones; it takes the place of one with the same key. -/
def insertField (k : String) (v : Value) : List (String × Value) → List (String × Value)
  | [] => [(k, v)]
  | (k', v') :: fields =>
    if k = k' then (k, v) :: fields
    else if k < k' then (k, v) :: (k', v') :: fields
    else (k', v') :: insertField k v fields

/-- The fields sorted by key, the last one of each key. -/
def sortFields (fields : List (String × Value)) : List (String × Value) :=
  fields.foldl (fun fs f => insertField f.1 f.2 fs) []

/-- The key that a token stands for. -/
def key? : Token → Option String
  | .string s => some s
  | .word s => some s
  | .number s => some s
  | _ => none

/-- Passes over a comma. -/
def skipComma (c : Cursor) : Except Fault Cursor :=
  match next c with
  | .ok ((some .comma, _), c') => .ok c'
  | .ok _ => .ok c
  | .error f => .error f

/-! ## The grammar -/

mutual

/-- The value that begins with a token at `start`; `c` is the cursor after the token. -/
def valueOf : (steps : Nat) → Token → (start : Nat) → Cursor → Except Fault (Value × Cursor)
  | 0, _, start, _ => fault .unexpectedToken start
  | steps + 1, t, start, c =>
    match t with
    | .openBrace => fieldsFrom steps start [] c
    | .openBracket => elementsFrom steps start [] c
    | .string s => .ok (.string s, c)
    | .bool b => .ok (.bool b, c)
    | .null => .ok (.null, c)
    | .number s => .ok (numberValue s, c)
    | .closeBracket => fault .unexpectedCloseBracket start
    | .closeBrace => fault .unexpectedCloseBrace start
    | .comma => fault .unexpectedComma start
    | .colon => fault .unexpectedColon start
    | .word _ => fault .unexpectedWord start

/-- The fields of an object that began at `start`; `taken` holds those so far, last one first. -/
def fieldsFrom : (steps : Nat) → (start : Nat) → List (String × Value) → Cursor →
    Except Fault (Value × Cursor)
  | 0, start, _, _ => fault .unterminatedObject start
  | steps + 1, start, taken, c => do
    match ← next c with
    | ((none, _), _) => fault .unterminatedObject start
    | ((some .closeBrace, _), c) => return (.object (sortFields taken.reverse), c)
    | ((some t, place), c) =>
      match key? t with
      | none => fault .unexpectedTokenInObject place
      | some k =>
        match ← next c with
        | ((some .colon, _), c) =>
          match ← next c with
          | ((none, place), _) => fault .expectedValue place
          | ((some t, place), c) =>
            let (v, c) ← valueOf steps t place c
            let c ← skipComma c
            fieldsFrom steps start ((k, v) :: taken) c
        | ((_, place), _) => fault .expectedColon place

/-- The elements of a list that began at `start`; `taken` holds those so far, last one first. -/
def elementsFrom : (steps : Nat) → (start : Nat) → List Value → Cursor →
    Except Fault (Value × Cursor)
  | 0, start, _, _ => fault .unterminatedArray start
  | steps + 1, start, taken, c => do
    match ← next c with
    | ((none, _), _) => fault .unterminatedArray start
    | ((some .closeBracket, _), c) => return (.list taken.reverse, c)
    | ((some t, place), c) =>
      let (v, c) ← valueOf steps t place c
      let c ← skipComma c
      elementsFrom steps start (v :: taken) c

end

/-- Enough steps for a value with so many characters after its first token: a list that opens takes
one step as a value and one as a list of elements, and every other step uses up a token. -/
def enoughSteps (remaining : Nat) : Nat := 2 * remaining + 2

/-- The value that a text holds: none if the text is empty but for blanks and comments. -/
def parse (text : String) : Except Fault (Option Value) := do
  let cs := text.toList
  match ← next ⟨0, cs⟩ with
  | ((none, _), _) => return none
  | ((some t, place), c) =>
    let (v, c) ← valueOf (enoughSteps cs.length) t place c
    match ← next c with
    | ((none, _), _) => return some v
    | ((some _, place), _) => fault .moreThanOneValue place

end LintDispatch.Relaxed
