import LintDispatch.Machine.Numeral

/-!
# Numbers in the shell
An expression is cut into tokens and then computed from left to right, with numbers of 64 bits. What
an expression assigns to variables is collected. A part whose value cannot matter is read, but not
computed.
-/

namespace LintDispatch.Shell

/-- What is wrong with an expression. -/
inductive NumberFault where
  /-- The expression makes no sense. -/
  | expression (fault : String)
  /-- A text should spell a number, and does not. -/
  | spelling (s : Letters)
  deriving DecidableEq, Repr, Inhabited

/-- The number that a whole text spells. An empty one spells zero unless `filled`. -/
def numberOf? (decimal filled : Bool) (s : Letters) : Except NumberFault Int :=
  let n := Numeral.read decimal s
  if (!n.found && filled) || !n.fits || n.rest.any (!Letters.isSpace ·) then .error (.spelling s)
  else .ok n.value

namespace Arithmetic

/-- A token of an expression. -/
inductive Token where
  | number (n : Int)
  | name (s : Letters)
  | sign (s : String)
  deriving DecidableEq, Repr, Inhabited

/-- The signs, the longer ones first. -/
def signs : List String :=
  ["<<=", ">>=", "==", "!=", "<=", ">=", "<<", ">>", "&&", "||", "+=", "-=", "*=", "/=", "%=",
   "&=", "|=", "^=", "=", "<", ">", "&", "|", "^", "+", "-", "*", "/", "%", "!", "~", "(", ")",
   "?", ":"]

/-- A sign that stands for anything without a meaning. -/
def nonsense : Token := .sign ""

/-- Cuts an expression into tokens. What follows something without a meaning does not matter. -/
def tokens : (fuel : Nat) → Letters → List Token
  | 0, _ | _, [] => []
  | fuel + 1, c :: s =>
    if c == ' ' || c == '\t' || c == '\n' then tokens fuel s
    else if c.isDigit then
      let n := Numeral.ofBased (c :: s)
      .number n.clamped :: tokens fuel n.rest
    else if Letters.isNameStart c then
      let (name, rest) := Letters.spanName (c :: s)
      .name name :: tokens fuel rest
    else
      match signs.find? fun t => t.toList.isPrefixOf (c :: s) with
      | some t => .sign t :: tokens fuel ((c :: s).drop t.length)
      | none => [nonsense]

/-- A number reduced to 64 bits with a sign. -/
def wrap (n : Int) : Int := (n + Int.pow 2 63) % Int.pow 2 64 - Int.pow 2 63

/-- The number one for what holds, and zero for what does not. -/
def truth (b : Bool) : Int := if b then 1 else 0

/-- Bits of two numbers, combined. -/
def bits (f : Nat → Nat → Nat) (a b : Int) : Int :=
  wrap (f (a % Int.pow 2 64).toNat (b % Int.pow 2 64).toNat)

/-- How loosely a binary sign binds, if it is one. -/
def looseness? (s : String) : Option Nat :=
  match s with
  | "*" | "/" | "%" => some 0
  | "+" | "-" => some 1
  | "<<" | ">>" => some 2
  | "<" | "<=" | ">" | ">=" => some 3
  | "==" | "!=" => some 4
  | "&" => some 5
  | "^" => some 6
  | "|" => some 7
  | _ => none

/-- Binds more loosely than all binary signs. -/
def loosest : Nat := 8

/-- Applies a binary sign. Nothing can be divided by zero. -/
def apply (op : String) (a b : Int) : Except NumberFault Int :=
  match op with
  | "==" => .ok (truth (a == b))
  | "!=" => .ok (truth (a != b))
  | "<=" => .ok (truth (a ≤ b))
  | ">=" => .ok (truth (b ≤ a))
  | "<" => .ok (truth (a < b))
  | ">" => .ok (truth (b < a))
  | "|" => .ok (bits (· ||| ·) a b)
  | "^" => .ok (bits (· ^^^ ·) a b)
  | "&" => .ok (bits (· &&& ·) a b)
  | "<<" => .ok (wrap (a * Int.pow 2 (b % 64).toNat))
  | ">>" => .ok (a / Int.pow 2 (b % 64).toNat)
  | "+" => .ok (wrap (a + b))
  | "-" => .ok (wrap (a - b))
  | "*" => .ok (wrap (a * b))
  | "/" => if b == 0 then .error (.expression "division by zero") else .ok (wrap (a.tdiv b))
  | _ => if b == 0 then .error (.expression "division by zero") else .ok (a.tmod b)

/-- The sign of an assignment without its equals sign. -/
def assignment? (s : String) : Option String :=
  if ["=", "<<=", ">>=", "+=", "-=", "*=", "/=", "%=", "&=", "|=", "^="].contains s then
    some (String.ofList s.toList.dropLast)
  else none

/-- What is left of an expression, and what has been assigned, the latest first. -/
structure Progress where
  rest : List Token
  assigned : List (Letters × Letters) := []
  deriving Inhabited

/-- Something that is computed. -/
abbrev Computing := ExceptT NumberFault (StateM Progress)

/-- The expression makes no sense. -/
def fail {α : Type} (fault : String) : Computing α := throw (.expression fault)

/-- The next token, if there is one. -/
def next? : Computing (Option Token) := return (← get).rest.head?

/-- Skips a token. -/
def skip : Computing Unit := modify fun p => { p with rest := p.rest.tail }

/-- The next token is this sign. -/
def isNext (s : String) : Computing Bool := return (← next?) == some (.sign s)

/-- The value of a variable as a number. -/
def valueOf (value? : Letters → Option Letters) (name : Letters) : Computing Int := do
  let given := ((← get).assigned.find? (·.1 == name)).map (·.2)
  match numberOf? false false ((given.orElse fun _ => value? name).getD []) with
  | .ok n => return n
  | .error e => throw e

/-- Assigns a number to a variable. -/
def assign (name : Letters) (n : Int) : Computing Int := do
  modify fun p => { p with assigned := (name, Letters.ofInt n) :: p.assigned }
  return n

mutual

/-- Computes a number, a variable, a negation or what stands in brackets. -/
def primary (value? : Letters → Option Letters) (n : Nat) (idle : Bool) : Computing Int :=
  match n with
  | 0 => fail "out of memory"
  | n + 1 => do
    let t ← next?
    skip
    match t with
    | some (.number k) => return k
    | some (.name s) => if idle then return 0 else valueOf value? s
    | some (.sign "(") =>
      let k ← assignment value? n idle
      if ← isNext ")" then
        skip
        return k
      else fail "expecting ')'"
    | some (.sign "+") => primary value? n idle
    | some (.sign "-") => return wrap (-(← primary value? n idle))
    | some (.sign "!") => return truth ((← primary value? n idle) == 0)
    | some (.sign "~") => return wrap (-(← primary value? n idle) - 1)
    | _ => fail "expecting primary"

/-- Computes what follows `a` as long as its signs bind more tightly than `limit`. -/
def binary (value? : Letters → Option Letters) (n : Nat) (idle : Bool) (limit : Nat) (a : Int) :
    Computing Int :=
  match n with
  | 0 => fail "out of memory"
  | n + 1 => do
    match ← next? with
    | some (.sign op) =>
      match looseness? op with
      | none => return a
      | some k =>
        if limit ≤ k then return a
        else
          skip
          let b ← primary value? n idle
          let b ← binary value? n idle k b
          let a ← if idle then pure b else match apply op a b with
            | .ok c => pure c
            | .error e => throw e
          binary value? n idle limit a
    | _ => return a

/-- Computes conditions that must all hold. -/
def both (value? : Letters → Option Letters) (n : Nat) (idle : Bool) : Computing Int :=
  match n with
  | 0 => fail "out of memory"
  | n + 1 => do
    let a ← binary value? n idle loosest (← primary value? n idle)
    if ← isNext "&&" then
      skip
      let b ← both value? n (idle || a == 0)
      return truth (a != 0 && b != 0)
    else return a

/-- Computes conditions of which one must hold. -/
def either (value? : Letters → Option Letters) (n : Nat) (idle : Bool) : Computing Int :=
  match n with
  | 0 => fail "out of memory"
  | n + 1 => do
    let a ← both value? n idle
    if ← isNext "||" then
      skip
      let b ← either value? n (idle || a != 0)
      return truth (a != 0 || b != 0)
    else return a

/-- Computes an expression that may choose between two others. -/
def conditional (value? : Letters → Option Letters) (n : Nat) (idle : Bool) : Computing Int :=
  match n with
  | 0 => fail "out of memory"
  | n + 1 => do
    let a ← either value? n idle
    if ← isNext "?" then
      skip
      let b ← assignment value? n (idle || a == 0)
      if !(← isNext ":") then fail "expecting ':'"
      skip
      let c ← conditional value? n (idle || a != 0)
      return if a != 0 then b else c
    else return a

/-- Computes an expression that may be an assignment. -/
def assignment (value? : Letters → Option Letters) (n : Nat) (idle : Bool) : Computing Int :=
  match n with
  | 0 => fail "out of memory"
  | n + 1 => do
    match (← get).rest with
    | .name s :: .sign op :: _ =>
      match assignment? op with
      | none => conditional value? n idle
      | some op =>
        skip
        skip
        let k ← assignment value? n idle
        if idle then return k
        else if op.isEmpty then assign s k
        else
          match apply op (← valueOf value? s) k with
          | .ok k => assign s k
          | .error e => throw e
    | _ => conditional value? n idle

end

/-- Computes a whole expression: its value, and what it assigns, in order. -/
def eval (value? : Letters → Option Letters) (s : Letters) :
    Except NumberFault Int × List (Letters × Letters) :=
  let ts := tokens (s.length + 1) s
  let whole : Computing Int := do
    let k ← assignment value? (8 * ts.length + 16) false
    if (← get).rest.isEmpty then return k else fail "expecting EOF"
  let (r, p) := whole.run.run { rest := ts }
  (r, p.assigned.reverse)

end Arithmetic

end LintDispatch.Shell
