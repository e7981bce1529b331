import LintDispatch.Decimal.Literal
import LintDispatch.Utility.Options

/-!
# Waiting
`sleep` lets time pass: the sum of its arguments, which are numbers of seconds or, with a letter after
them, of minutes, hours or days.
-/

namespace LintDispatch.Utility

open LintDispatch.Machine

namespace Sleep

/-- The seconds that a letter after a number stands for. -/
def unit? (s : Letters) : Option Nat :=
  match s with
  | [] | ['s'] => some 1
  | ['m'] => some 60
  | ['h'] => some 3600
  | ['d'] => some 86400
  | _ => none

/-- A length of time in microseconds; none is without end. -/
def micros? (s : Letters) : Option (Option Nat) :=
  match Decimal.Literal.read? Letters.isSpace s with
  | none => none
  | some (x, rest) =>
    match unit? rest, x.magnitude with
    | some unit, .finite num den =>
      if x.negative && num != 0 then none
      else some (some ((num * unit * 1000000 + den - 1) / den))
    | some _, .infinite => if x.negative then none else some none
    | _, _ => none

/-- Times longer than this one are without end. -/
def longest : Nat := Nat.pow 10 18

end Sleep

/-- Lets time pass. -/
def sleep : Program := program fun args => do
  let a ← ({ letters := [] } : OptionTable).sort args
  if a.operands.isEmpty then misused (Letters.ofText "missing operand")
  let times ← a.operands.filterMapM fun s => do
    match Sleep.micros? s with
    | some t => return some t
    | none =>
      complain (Letters.ofText "invalid time interval " ++ quote s)
      return none
  if times.length < a.operands.length then suggestHelp
  let total := (times.filterMap id).foldl (· + ·) 0
  if times.any (·.isNone) || Sleep.longest < total then
    let _ : Unit ← ask .never
  else
    let _ : Unit ← ask (.pass total)

end LintDispatch.Utility
