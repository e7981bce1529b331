import LintDispatch.Run.Result

/-!
# The text report
A run is shown as one line per issue, under a header for each stretch of issues about the same file,
and a summary below them. A header stands for all that follows until an issue is about another file
than the one it names.
-/

namespace LintDispatch

namespace TextReport

/-- What is shown above the summary. -/
inductive Line where
  /-- The file that the issues below are about, after an empty line. -/
  | header (path : Path)
  | issue (i : Issue)
  deriving DecidableEq, Repr

/-- How a line is written. -/
def Line.text : Line → String
  | header path => "\n" ++ Utf8.lossy path ++ ":\n"
  | issue i =>
    "  " ++ Utf8.lossy i.path ++ ":" ++ toString i.line.toNat ++ ":" ++ toString i.column.toNat ++
      " " ++ i.severity.name ++ " [" ++ i.ruleId.getD "-" ++ "]: " ++ i.message ++ "\n"

/-- The lines of some issues; `shown` is the path in the header above. -/
def linesFrom (shown : Option Path) : List Issue → List Line
  | [] => []
  | i :: is =>
    if shown.any fun p => Path.sameRoute p i.path then .issue i :: linesFrom shown is
    else .header i.path :: .issue i :: linesFrom (some i.path) is

/-- The last line, after an empty one. -/
def summary (filesChecked batches issues errors warnings : Nat) : String :=
  "\nChecked " ++ toString filesChecked ++ " files in " ++ toString batches ++
    " batches, found " ++ toString issues ++ " issues (" ++ toString errors ++ " errors, " ++
    toString warnings ++ " warnings)\n"

end TextReport

namespace RunResult

/-- The result as text. -/
def textReport (r : RunResult) (filesChecked : Nat) : String :=
  String.join ((TextReport.linesFrom none r.issues).map TextReport.Line.text) ++
    TextReport.summary filesChecked r.batches r.issues.length (r.count .error) (r.count .warning)

end RunResult

end LintDispatch
