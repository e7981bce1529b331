import LintDispatch.Machine.Letters

/-!
# Signals
A signal is a number. Most signals end a process that has not asked for anything else; some do
nothing, and some stop it.
-/

namespace LintDispatch.Signal

/-- The signals have the numbers below this one; zero only asks whether a process is there. -/
def limit : Nat := 65

def interrupt : Nat := 2
def quit : Nat := 3
def kill : Nat := 9
def pipe : Nat := 13
def terminate : Nat := 15
def child : Nat := 17
def resume : Nat := 18
def stop : Nat := 19

/-- The names of the signals with small numbers, beginning with that of zero. -/
def smallNames : List String :=
  ["EXIT", "HUP", "INT", "QUIT", "ILL", "TRAP", "ABRT", "BUS", "FPE", "KILL", "USR1", "SEGV",
   "USR2", "PIPE", "ALRM", "TERM", "16", "CHLD", "CONT", "STOP", "TSTP", "TTIN", "TTOU", "URG",
   "XCPU", "XFSZ", "VTALRM", "PROF", "WINCH", "IO", "PWR", "SYS", "32", "33"]

/-- The name of a signal. -/
def name (n : Nat) : Letters :=
  match smallNames[n]? with
  | some s => Letters.ofText s
  | none =>
    if n == 34 then Letters.ofText "RTMIN"
    else if n < 50 then Letters.ofText "RTMIN+" ++ Letters.ofNat (n - 34)
    else if n < 64 then Letters.ofText "RTMAX-" ++ Letters.ofNat (64 - n)
    else Letters.ofText "RTMAX"

/-- The signal of a name in small or capital letters, from `least` on. -/
def ofName? (least : Nat) (s : Letters) : Option Nat :=
  let s := s.map Char.toUpper
  (List.range limit).find? fun n => least ≤ n && name n == s

/-- What a signal means, in words. -/
def meanings : List String :=
  ["Unknown signal 0", "Hangup", "Interrupt", "Quit", "Illegal instruction",
   "Trace/breakpoint trap", "Aborted", "Bus error", "Floating point exception", "Killed",
   "User defined signal 1", "Segmentation fault", "User defined signal 2", "Broken pipe",
   "Alarm clock", "Terminated", "Stack fault", "Child exited", "Continued", "Stopped (signal)",
   "Stopped", "Stopped (tty input)", "Stopped (tty output)", "Urgent I/O condition",
   "CPU time limit exceeded", "File size limit exceeded", "Virtual timer expired",
   "Profiling timer expired", "Window changed", "I/O possible", "Power failure",
   "Bad system call"]

/-- What a signal means, in words. -/
def meaning (n : Nat) : Letters :=
  match meanings[n]? with
  | some s => Letters.ofText s
  | none =>
    if n < 34 then Letters.ofText "Unknown signal " ++ Letters.ofNat n
    else Letters.ofText "Real-time signal " ++ Letters.ofNat (n - 34)

/-- What a signal does to a process that has not asked for anything else. -/
inductive Effect where
  | ends
  | nothing
  | stops
  deriving DecidableEq, Repr, Inhabited

/-- What a signal does unless asked otherwise. -/
def effect (n : Nat) : Effect :=
  if [17, 18, 23, 28].contains n then .nothing
  else if 19 ≤ n && n ≤ 22 then .stops
  else .ends

/-- A signal that no process can refuse. -/
def isFinal (n : Nat) : Bool := n == kill || n == stop

end LintDispatch.Signal
