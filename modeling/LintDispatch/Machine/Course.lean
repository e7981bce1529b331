import LintDispatch.FileSystem

/-!
# Machines
What a command does when it runs is up to the machine that it runs on. A machine starts a process
or says why it cannot, and all that matters of a process is its course: how long it takes, how it
ends, what it writes and what it does to the files.
-/

namespace LintDispatch

/-- The life of a process. -/
structure Course where
  /-- When it ends, in milliseconds from its start; without a number it runs on. -/
  lasts : Option Nat
  /-- The exit code; there is none if a signal ends it. -/
  exitCode : Option Int
  stdout : Bytes := []
  stderr : Bytes := []
  /-- The files that it leaves. -/
  files : FileSystem
  deriving DecidableEq, Repr, Inhabited

/-- Starts processes. A process that is killed after `allowed` milliseconds has changed nothing
later than that; that it has ended is noticed by somebody who looks every `interval` milliseconds. -/
structure Machine where
  start : (argv : List Bytes) → (interval : Nat) → (allowed : Option Nat) → FileSystem →
    Except HostError Course

end LintDispatch
