import LintDispatch.Json.Token

/-!
# Passing over values
A value that nobody asked for is passed over: its shape is checked, but its strings are not decoded
and its numbers may be of any size. Lists and objects may be nested to any depth, so the walk keeps
the open brackets itself.
-/

namespace LintDispatch.Json

/-- An open bracket. -/
inductive Frame where
  | list
  | object
  deriving DecidableEq, Repr

/-- The bracket that closes a frame. -/
def Frame.close : Frame → UInt8
  | .list => closeBracket
  | .object => closeBrace

/-- What is said if the text ends inside a frame. -/
def Frame.ended : Frame → Complaint
  | .list => .endInList
  | .object => .endInObject

/-- What is said if a value is followed by something else than a comma or the closing bracket. -/
def Frame.unfinished : Frame → Complaint
  | .list => .expectedCommaOrBracket
  | .object => .expectedCommaOrBrace

/-- What comes next, with the open brackets, innermost first. -/
inductive SkipState where
  /-- A value. -/
  | value (outer : List Frame)
  /-- What follows a value. -/
  | after (outer : List Frame)
  /-- What follows an opening bracket. -/
  | opened (frame : Frame) (outer : List Frame)
  deriving DecidableEq, Repr

/-- Passes over a string whose opening quote has been taken. The bytes that were left at first,
`bound`, are an upper bound for the number of steps. -/
def skipStringFrom : (bound : Bytes) → Reader Unit
  | [] => fail .endInString
  | _ :: bound => do
    match ← peek with
    | none => fail .endInString
    | some b =>
      if b == quote then take
      else if b == backslash then
        take
        match ← peek with
        | none => fail .endInString
        | some e =>
          take
          if (simpleEscape? e).isSome then skipStringFrom bound
          else if e == 117 then
            let _ ← hexFour
            skipStringFrom bound
          else fail .invalidEscape
      else if b < 32 then fail .controlCharacter
      else
        take
        skipStringFrom bound

/-- Passes over a string whose opening quote has been taken. -/
def skipString : Reader Unit := fun c => skipStringFrom c.rest c

/-- Passes over the colon after a key. -/
def keyColon : Reader Unit := do
  match ← peekToken with
  | none => failNext .endInObject
  | some b => if b == colon then take else failNext .expectedColon

/-- Passes over what stands before the next value in a frame: in an object, its key. -/
def skipLead : Frame → Reader Unit
  | .list => return ()
  | .object => do
    match ← peekToken with
    | none => failNext .endInObject
    | some b =>
      if b == quote then
        take
        skipString
        keyColon
      else failNext .keyNotString

/-- One step; there is no next one once the value is complete. -/
def skipStep : SkipState → Reader (Option SkipState)
  | .value outer => do
    let b ← peekValue
    if b == 110 then do take; word restOfNull; return some (.after outer)
    else if b == 116 then do take; word restOfTrue; return some (.after outer)
    else if b == 102 then do take; word restOfFalse; return some (.after outer)
    else if startsNumber b then do
      let _ ← minus
      let _ ← numberDigits .invalidNumber
      return some (.after outer)
    else if b == quote then do take; skipString; return some (.after outer)
    else if b == openBracket then do take; return some (.opened .list outer)
    else if b == openBrace then do take; return some (.opened .object outer)
    else failNext .expectedValue
  | .after [] => return none
  | .after (frame :: outer) => do
    match ← peekToken with
    | none => failNext frame.ended
    | some b =>
      if b == comma then do
        take
        skipLead frame
        return some (.value (frame :: outer))
      else if b == frame.close then do
        take
        return some (.after outer)
      else failNext frame.unfinished
  | .opened frame outer => do
    match ← peekToken with
    | none => failNext frame.ended
    | some b =>
      if b == frame.close then do
        take
        return some (.after outer)
      else do
        skipLead frame
        return some (.value (frame :: outer))

/-- Goes on until the value is complete. Of two steps at least one takes a byte, so the bytes that
were left at first, `bound`, are enough to pay for two steps each. -/
def skipFrom : (bound : Bytes) → SkipState → Reader Unit
  | [], s => do
    match ← skipStep s with
    | none => return ()
    | some _ => fail .endInValue
  | _ :: bound, s => do
    match ← skipStep s with
    | none => return ()
    | some s =>
      match ← skipStep s with
      | none => return ()
      | some s => skipFrom bound s

/-- Passes over one value. -/
def skipValue : Reader Unit := fun c => skipFrom c.rest (.value []) c

end LintDispatch.Json
