import LintDispatch.Shell.Builtin.Table

/-!
# What a simple command calls
The first field of a command is the name of what is called. `command` in front of a name only says
that no function is meant, so the name after it decides.
-/

namespace LintDispatch.Shell

open LintDispatch.Machine

/-- Words of which the first ones have been expanded to fields. -/
structure Spread where
  fields : List Letters := []
  rest : List Word := []
  deriving Inhabited

/-- Expands words until there are `count` fields, as far as possible. -/
def spread (output : Expand.OutputOf) (count : Nat) (fields : List Letters) :
    List Word → Act Spread
  | [] => return ⟨fields, []⟩
  | w :: ws => do
    if count ≤ fields.length then return ⟨fields, w :: ws⟩
    else
      let more ← Expand.fields output w
      spread output count (fields ++ more) ws

/-- What a name stands for, as far as the shell itself knows. -/
inductive Callee where
  | function (f : Function)
  | builtin
  | program
  deriving Inhabited

/-- What a name stands for. Functions may be passed over. -/
def State.callee (st : State) (functions : Bool) (name : Letters) : Callee :=
  if isPath name then .program
  else
    match if functions then st.functions.find? (·.name == name) else none with
    | some f => .function f
    | none => if isBuiltin name then .builtin else .program

/-- What is called. -/
structure Call where
  words : Spread
  /-- How many fields come before the name. -/
  start : Nat := 0
  callee : Callee := .builtin
  functions : Bool := true
  /-- The directories for programs, if they are not the usual ones. -/
  path : Option Letters := none
  /-- The first builtin is a special one. -/
  special : Option Bool := none
  /-- The arguments may be assignments. -/
  assigning : Bool := false
  deriving Inhabited

/-- The name of what is called. -/
def Call.name (c : Call) : Letters := c.words.fields.getD c.start []

/-- Finds the name after the options of `command`, which begin at field `k`. There is none if the
options ask for something else, or if no field is left. -/
def nameAfterOptions (output : Expand.OutputOf) : (rounds : Nat) → (k : Nat) → Option Letters →
    Spread → Act (Spread × Option (Nat × Option Letters))
  | 0, _, _, s => return (s, none)
  | rounds + 1, k, path, s => do
    let s ← spread output (k + 1) s.fields s.rest
    match s.fields[k]? with
    | none => return (s, none)
    | some ['-', '-'] =>
      let s ← spread output (k + 2) s.fields s.rest
      return (s, if k + 1 < s.fields.length then some (k + 1, path) else none)
    | some ('-' :: c :: cs) =>
      if (c :: cs).all (· == 'p') then
        nameAfterOptions output rounds (k + 1) (some usualPath) s
      else return (s, none)
    | some _ => return (s, some (k, path))

/-- Finds out what is called. -/
def resolve (output : Expand.OutputOf) : (rounds : Nat) → Call → Act Call
  | 0, c => return c
  | rounds + 1, c => do
    let callee := (← get).callee c.functions c.name
    let c := { c with callee := callee }
    match callee with
    | .builtin =>
      let c := { c with
        special := some (c.special.getD (isSpecial c.name)), assigning := takesAssignments c.name }
      if c.name != Letters.ofText "command" then return c
      else
        match ← nameAfterOptions output Job.rounds (c.start + 1) c.path c.words with
        | (s, none) => return { c with words := s }
        | (s, some (k, path)) =>
          resolve output rounds { c with words := s, start := k, path := path, functions := false }
    | _ => return c

/-- Expands a word that may be an assignment. -/
def assignmentOrFields (output : Expand.OutputOf) (w : Word) : Act (List Letters) := do
  match Reading.assignment? w with
  | some (name, value) => return [name ++ '=' :: (← Expand.value output value)]
  | none => Expand.fields output w

/-- The name and the arguments of what is called. -/
def Call.expand (output : Expand.OutputOf) (c : Call) : Act (List Letters) := do
  let more ← c.words.rest.mapM fun w =>
    if c.assigning then assignmentOrFields output w else Expand.fields output w
  return c.words.fields ++ more.flatten

/-- Finds out what is called by some words, if they leave any fields. -/
def callOf (output : Expand.OutputOf) (words : List Word) : Act (Option Call) := do
  let s ← spread output 1 [] words
  if s.fields.isEmpty then return none
  else return some (← resolve output Job.rounds { words := s })

/-- Variables are given values only for the time of the call. -/
def Call.isScoped (c : Call) : Bool :=
  match c.special with
  | some special => !special
  | none => true

end LintDispatch.Shell
