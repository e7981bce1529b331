import LintDispatch.Machine.Letters

/-!
# The syntax of the shell
A command is made of words, and a word of parts: text, parameters, the output of commands, numbers.
Every part knows whether it stands in quotes, since only what is not quoted is split and matched
against file names. Commands know the line on which they begin.
-/

namespace LintDispatch.Shell

/-- How the value of a parameter is used. A colon before the operator counts an empty value as
missing. -/
inductive Use (ω : Type) where
  | value
  | length
  /-- The word stands for a missing value. -/
  | default (colon : Bool) (w : ω)
  /-- The word stands for a missing value, and becomes the value. -/
  | assign (colon : Bool) (w : ω)
  /-- The word replaces a value that is there. -/
  | instead (colon : Bool) (w : ω)
  /-- A missing value is an error, with the word as its text. -/
  | demand (colon : Bool) (w : ω)
  /-- The value without the shortest or longest beginning or end that matches the word. -/
  | without (atEnd longest : Bool) (w : ω)
  /-- There is no such use. -/
  | wrong
  deriving Inhabited

mutual

/-- A part of a word. -/
inductive Part where
  /-- Some text. Quotes without anything in them are a quoted text without letters. -/
  | text (quoted : Bool) (s : Letters)
  | param (quoted : Bool) (name : Letters) (use : Use (List Part))
  | output (quoted : Bool) (body : Option Command)
  | number (quoted : Bool) (expression : List Part)

/-- Where a redirection leads. -/
inductive Target where
  | read (path : List Part)
  | write (path : List Part)
  /-- An existing file is overwritten even if files are protected. -/
  | overwrite (path : List Part)
  | append (path : List Part)
  | update (path : List Part)
  /-- To wherever another descriptor leads. -/
  | duplicate (descriptor : List Part)
  /-- From a text below the command: the text of this number. -/
  | document (k : Nat)

/-- A redirection of a descriptor. -/
inductive Redirect where
  | mk (descriptor : Nat) (target : Target)

/-- A command. -/
inductive Command where
  /-- Assignments, words and redirections. -/
  | simple (line : Nat) (assigns : List (Letters × List Part)) (words : List (List Part))
      (redirects : List Redirect)
  | redirected (line : Nat) (body : Command) (redirects : List Redirect)
  /-- A command in a shell of its own. -/
  | subshell (line : Nat) (body : Command) (redirects : List Redirect)
  /-- A command in a shell of its own that nobody waits for. -/
  | background (line : Nat) (body : Command) (redirects : List Redirect)
  | pipe (background : Bool) (stages : List Command)
  /-- Commands one after the other. -/
  | sequence (cs : List Command)
  /-- The second command runs if the first one succeeds. -/
  | both (first second : Command)
  /-- The second command runs if the first one fails. -/
  | either (first second : Command)
  | negate (c : Command)
  | branch (condition yes : Command) (no : Option Command)
  /-- Repeats while the condition holds, or until it does. -/
  | loop (negated : Bool) (condition body : Command)
  /-- Repeats for each of the words. -/
  | each (line : Nat) (name : Letters) (words : List (List Part)) (body : Command)
  | choose (line : Nat) (subject : List Part) (arms : List (List (List Part) × Option Command))
  | define (name : Letters) (body : Command)

end

/-- A word. -/
abbrev Word := List Part

instance : Inhabited Part := ⟨.text false []⟩
instance : Inhabited Command := ⟨.sequence []⟩
instance : Inhabited Target := ⟨.duplicate []⟩
instance : Inhabited Redirect := ⟨.mk 0 default⟩

end LintDispatch.Shell
