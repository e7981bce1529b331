import LintDispatch.FileSystem
import LintDispatch.Shell.Arithmetic

/-!
# Conditions
What `test` says of its arguments: comparisons of texts and numbers, properties of files, and
combinations of these. An argument is an operator or an operand depending on those after it.
-/

namespace LintDispatch.Shell.Condition

/-- What an argument can be. -/
inductive Kind where
  | unary
  | binary
  | not
  | and
  | or
  | opening
  | closing
  deriving DecidableEq, Repr, Inhabited

/-- The operators of one operand. -/
def unaryOperators : List String :=
  ["-r", "-w", "-x", "-e", "-f", "-d", "-c", "-b", "-p", "-u", "-g", "-k", "-s", "-t", "-z", "-n",
   "-h", "-O", "-G", "-L", "-S"]

/-- The operators of two operands. -/
def binaryOperators : List String :=
  ["=", "!=", "<", ">", "-eq", "-ne", "-ge", "-gt", "-le", "-lt", "-nt", "-ot", "-ef"]

/-- What an argument is if it is no operand. -/
def kind? (a : Letters) : Option Kind :=
  let s := String.ofList a
  if unaryOperators.contains s then some .unary
  else if binaryOperators.contains s then some .binary
  else match s with
    | "!" => some .not
    | "-a" => some .and
    | "-o" => some .or
    | "(" => some .opening
    | ")" => some .closing
    | _ => none

/-- Why a condition makes no sense. -/
abbrev Fault := Letters

/-- The number that an operand spells. -/
def number (a : Letters) : Except Fault Int :=
  match numberOf? true true a with
  | .ok n => .ok n
  | .error _ => .error (Letters.ofText "Illegal number: " ++ a)

/-- A property of what a path leads to. -/
def hasProperty (fs : FileSystem) (op : String) (path : Letters) : Bool :=
  let p := Letters.bytes path
  match fs.lookup p with
  | .error _ => false
  | .ok node =>
    match op with
    | "-e" | "-r" | "-w" | "-O" | "-G" => true
    | "-x" => fs.isDir p || ((fs.locate p).toOption.map fs.runnable.contains).getD false
    | "-f" => (node matches .file _)
    | "-d" => (node matches .dir)
    | "-c" => (node matches .device _)
    | "-s" => (node matches .dir | .file (_ :: _))
    | _ => false

/-- What an operator says of one operand. -/
def unary (fs : FileSystem) (op : String) (a : Letters) : Except Fault Bool :=
  match op with
  | "-n" => .ok !a.isEmpty
  | "-z" => .ok a.isEmpty
  | "-t" => (number a).map fun _ => false
  | op => .ok (hasProperty fs op a)

/-- One text comes before another one, byte by byte. -/
def precedes : Letters → Letters → Bool
  | _, [] => false
  | [], _ :: _ => true
  | a :: s, b :: t => if a == b then precedes s t else a.toNat < b.toNat

/-- What an operator says of two operands. -/
def binary (fs : FileSystem) (op : String) (a b : Letters) : Except Fault Bool :=
  let numeric (f : Int → Int → Bool) : Except Fault Bool := do
    let m ← number a
    return f m (← number b)
  match op with
  | "=" => .ok (a == b)
  | "!=" => .ok (a != b)
  | "<" => .ok (precedes a b)
  | ">" => .ok (precedes b a)
  | "-eq" => numeric (· == ·)
  | "-ne" => numeric (· != ·)
  | "-lt" => numeric (· < ·)
  | "-le" => numeric (· ≤ ·)
  | "-gt" => numeric (· > ·)
  | "-ge" => numeric (· ≥ ·)
  | "-ef" =>
    match fs.lookup (Letters.bytes a), fs.locate (Letters.bytes a), fs.locate (Letters.bytes b) with
    | .ok _, .ok s, .ok t => .ok (s == t)
    | _, _, _ => .ok false
  | _ => .ok false

/-- A sign such as an operator is taken for an operand, since those after it need one. -/
def isOperand (rest : List Letters) : Bool :=
  match rest with
  | [] => true
  | [_] => false
  | s :: t :: _ => kind? s == some .binary && t != [')']

/-- What the first of some arguments is: an operator, or an operand. -/
def kindOf (args : List Letters) : Option Kind :=
  match args with
  | [] => none
  | a :: rest =>
    match kind? a with
    | some .unary => if isOperand rest then none else some .unary
    | some .opening => if rest.isEmpty then none else some .opening
    | k => k

/-- The text of a fault about an operator. -/
def faultAt (op : Letters) (text : String) : Fault :=
  if op.isEmpty then Letters.ofText text else op ++ Letters.ofText (": " ++ text)

/-- A part of a condition: whether it holds, and the arguments from its last one on. -/
abbrev Result := Except Fault (Bool × List Letters)

mutual

/-- A condition without combinations. The first argument is of this kind. -/
def primary (n : Nat) (fs : FileSystem) (k : Option Kind) (args : List Letters) : Result :=
  match n with
  | 0 => .error (Letters.ofText "out of memory")
  | n + 1 =>
    match args with
    | [] => .ok (false, [])
    | a :: rest =>
      match k with
      | some .opening =>
        if kindOf rest == some .closing then .ok (false, rest)
        else
          match either n fs (kindOf rest) rest with
          | .error e => .error e
          | .ok (b, args) =>
            if kindOf args.tail == some .closing then .ok (b, args.tail)
            else .error (Letters.ofText "closing paren expected")
      | some .unary =>
        match rest with
        | [] => .error (faultAt a "argument expected")
        | b :: _ => (unary fs (String.ofList a) b).map (·, rest)
      | _ =>
        if kindOf rest == some .binary then
          match rest with
          | op :: b :: more => (binary fs (String.ofList op) a b).map (·, b :: more)
          | op :: [] => .error (faultAt op "argument expected")
          | [] => .ok (!a.isEmpty, args)
        else .ok (!a.isEmpty, args)

/-- A condition that may be negated. -/
def negated (n : Nat) (fs : FileSystem) (k : Option Kind) (args : List Letters) : Result :=
  match n with
  | 0 => .error (Letters.ofText "out of memory")
  | n + 1 =>
    if k == some .not && !args.isEmpty then
      let rest := args.tail
      if rest.isEmpty then .ok (true, args)
      else (negated n fs (kindOf rest) rest).map fun (b, r) => (!b, r)
    else primary n fs k args

/-- Conditions that must all hold. -/
def both (n : Nat) (fs : FileSystem) (k : Option Kind) (args : List Letters) : Result :=
  match n with
  | 0 => .error (Letters.ofText "out of memory")
  | n + 1 =>
    match negated n fs k args with
    | .error e => .error e
    | .ok (a, args) =>
      if kindOf args.tail == some .and then
        let rest := args.tail.tail
        (both n fs (kindOf rest) rest).map fun (b, r) => (a && b, r)
      else .ok (a, args)

/-- Conditions of which one must hold. -/
def either (n : Nat) (fs : FileSystem) (k : Option Kind) (args : List Letters) : Result :=
  match n with
  | 0 => .error (Letters.ofText "out of memory")
  | n + 1 =>
    match both n fs k args with
    | .error e => .error e
    | .ok (a, args) =>
      if kindOf args.tail == some .or then
        let rest := args.tail.tail
        (either n fs (kindOf rest) rest).map fun (b, r) => (a || b, r)
      else .ok (a, args)

end

/-- Whether the whole condition holds, whose first argument is of this kind. -/
def whole (fs : FileSystem) (k : Option Kind) (args : List Letters) : Except Fault Bool :=
  match either (4 * args.length + 8) fs k args with
  | .error e => .error e
  | .ok (_, a :: _ :: _) => .error (faultAt a "unexpected operator")
  | .ok (b, _) => .ok b

/-- Whether the condition holds. With three or four arguments their number decides what they are. -/
def eval (fs : FileSystem) : List Letters → Except Fault Bool
  | [] => .ok false
  | [a, op, b] =>
    if kind? op == some .binary then whole fs none [a, op, b]
    else if a == ['('] && b == [')'] then whole fs (kindOf [op]) [op]
    else if a == ['!'] then (eval fs [op, b]).map (!·)
    else whole fs (kindOf [a, op, b]) [a, op, b]
  | [a, b, c, d] =>
    if a == ['('] && d == [')'] then whole fs (kindOf [b, c]) [b, c]
    else if a == ['!'] then (eval fs [b, c, d]).map (!·)
    else whole fs (kindOf [a, b, c, d]) [a, b, c, d]
  | args => whole fs (kindOf args) args

end LintDispatch.Shell.Condition
