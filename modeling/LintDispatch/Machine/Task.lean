import LintDispatch.Machine.Request

/-!
# Tasks
What a process does: it asks for something and goes on with the reply, it starts another process,
or it ends. Tasks are written as jobs, which hand on a result and can be put together.
-/

namespace LintDispatch.Machine

/-- What a process does from now on. -/
inductive Task where
  | ended (e : Exit)
  | ask (r : Request) (next : r.Reply → Task)
  /-- Another process begins with `child`; the reply is its number. -/
  | fork (child : Task) (next : Nat → Task)

instance : Inhabited Task := ⟨.ended default⟩

/-- A part of a task that has a result: given what to do with the result, it is a task. -/
def Job (α : Type) := (α → Task) → Task

namespace Job

instance : Monad Job where
  pure a := fun next => next a
  bind j f := fun next => j fun a => f a next

instance : LawfulMonad Job :=
  LawfulMonad.mk' Job (fun _ => rfl) (fun _ _ => rfl) (fun _ _ _ => rfl)

/-- Asks for something. -/
def ask (r : Request) : Job r.Reply := fun next => .ask r next

/-- How often a process repeats something at most. No process gets that far. -/
def rounds : Nat := 1000000000000

end Job

end LintDispatch.Machine
