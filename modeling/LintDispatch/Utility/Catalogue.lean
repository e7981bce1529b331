import LintDispatch.Utility.Cat
import LintDispatch.Utility.Moves
import LintDispatch.Utility.Head
import LintDispatch.Utility.Sleep
import LintDispatch.Utility.Tail
import LintDispatch.Utility.Tr
import LintDispatch.Utility.Wc
import LintDispatch.Utility.Words

/-!
# The utilities
All utilities by name.
-/

namespace LintDispatch.Utility

/-- All utilities by name. -/
def catalogue : List (String × Program) :=
  [("basename", basename), ("cat", cat), ("chmod", chmod), ("cp", cp), ("dirname", dirname),
   ("echo", echo), ("env", env), ("false", nothing 1), ("head", head), ("ls", ls),
   ("mkdir", mkdir), ("mv", mv), ("printf", printf), ("pwd", pwd), ("rm", rm), ("rmdir", rmdir),
   ("seq", seq), ("sleep", sleep), ("tail", tail), ("tee", tee), ("touch", touch), ("tr", tr),
   ("true", nothing 0), ("wc", wc), ("yes", yes)]

end LintDispatch.Utility
