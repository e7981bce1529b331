import LintDispatch.Shell.Expand

/-!
# Arguments of builtins
Builtins take options, which are letters after a dash, and numbers, and they show values in quotes.
What they cannot make sense of is an error.
-/

namespace LintDispatch.Shell

/-- What a builtin does with its arguments. The result is its status. -/
abbrev Builtin := List Letters → Act Nat

/-- A builtin that does nothing but end with a status. -/
def Builtin.constant (status : Nat) : Builtin := fun _ => return status

/-! ## Options -/

/-- Whether a letter is an option, and whether it has an argument; a colon after a letter in `spec`
says so. -/
def optionArity? (spec : List Char) (c : Char) : Option Bool :=
  match spec with
  | [] => none
  | d :: ':' :: rest => if d == c then some true else optionArity? rest c
  | d :: rest => if d == c then some false else optionArity? rest c

/-- The options that letters after one dash stand for, with their arguments; `after` are the
arguments that follow. -/
def optionLetters (spec : List Char) (after : List Letters) :
    Letters → Act (List (Char × Letters) × List Letters)
  | [] => return ([], after)
  | c :: s => do
    match optionArity? spec c with
    | none => abort (Letters.ofText "Illegal option -" ++ [c])
    | some false =>
      let (os, after) ← optionLetters spec after s
      return ((c, []) :: os, after)
    | some true =>
      if !s.isEmpty then return ([(c, s)], after)
      else match after with
        | a :: after => return ([(c, a)], after)
        | [] => abort (Letters.ofText "No arg for -" ++ c :: Letters.ofText " option")

/-- The options in front of the arguments, and the arguments after them. -/
def options (spec : List Char) : (count : Nat) → List Letters →
    Act (List (Char × Letters) × List Letters)
  | 0, args => return ([], args)
  | _ + 1, ['-', '-'] :: args => return ([], args)
  | count + 1, ('-' :: c :: s) :: args => do
    let (os, args) ← optionLetters spec args (c :: s)
    let (more, args) ← options spec count args
    return (os ++ more, args)
  | _ + 1, args => return ([], args)

/-- The options in front of the arguments, and the arguments after them. -/
def optionsOf (spec : String) (args : List Letters) : Act (List (Char × Letters) × List Letters) :=
  options spec.toList args.length args

/-- The arguments of a builtin that has no options. -/
def withoutOptions (args : List Letters) : Act (List Letters) := return (← optionsOf "" args).2

/-- The last of some options. -/
def lastOption (os : List (Char × Letters)) : Option Char := os.getLast?.map (·.1)

/-! ## Numbers -/

/-- What is said of something that is no number. -/
def illegalNumber {α : Type} (s : Letters) : Act α := abort (Letters.ofText "Illegal number: " ++ s)

/-- The number that an argument spells with decimal digits. -/
def numberOf (s : Letters) : Act Nat := do
  match Letters.nat? s with
  | some n => return n
  | none => illegalNumber s

/-! ## Quotes -/

/-- A value in quotes that a shell would read back. -/
def inQuotes : (fuel : Nat) → Letters → Letters
  | 0, _ => []
  | fuel + 1, s =>
    let (t, rest) := s.span (· != '\'')
    let quoted := '\'' :: t ++ ['\'']
    match rest with
    | [] => quoted
    | rest =>
      let (marks, rest) := rest.span (· == '\'')
      quoted ++ '"' :: marks ++ '"' :: (if rest.isEmpty then [] else inQuotes fuel rest)

/-- A value in quotes that a shell would read back. -/
def quoted (s : Letters) : Letters := inQuotes (s.length + 1) s

/-- A line. -/
def sayLine (s : Letters) : Act Unit := say (s ++ ['\n'])

end LintDispatch.Shell
