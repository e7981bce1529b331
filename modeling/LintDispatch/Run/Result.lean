import LintDispatch.Issue

/-!
# The result of a run
The issues of all batches, in the order of the batches, and how many batches there were.
-/

namespace LintDispatch

/-- What a run found. -/
structure RunResult where
  issues : List Issue := []
  batches : Nat := 0
  deriving DecidableEq, Repr, Inhabited

namespace RunResult

/-- The result with the issues of one more batch. -/
def push (r : RunResult) (issues : List Issue) : RunResult := ⟨r.issues ++ issues, r.batches + 1⟩

/-- How many issues have a severity. -/
def count (r : RunResult) (s : Severity) : Nat := r.issues.countP (·.severity == s)

/-- Some issue is an error. -/
def hasErrors (r : RunResult) : Bool := 0 < r.count .error

end RunResult

end LintDispatch
