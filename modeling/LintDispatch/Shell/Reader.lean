import LintDispatch.Shell.Syntax

/-!
# Reading program texts
A reader holds the text that has not been read, and what has to be remembered about the text before
it. Reading fails if the text makes no sense, and stops if there is not yet enough of it.
-/

namespace LintDispatch.Shell

/-- A sign or a word in a program text. -/
inductive Token where
  | lineEnd
  | semicolon
  | background
  | and
  | or
  | pipe
  | opening
  | closing
  /-- The end of an arm of a choice. -/
  | armEnd
  | ended
  | redirect
  | word
  | keyword (name : String)
  deriving DecidableEq, Repr, Inhabited

namespace Token

/-- How a message shows a token. -/
def shown : Token → String
  | lineEnd => "newline"
  | semicolon => "\";\""
  | background => "\"&\""
  | and => "\"&&\""
  | or => "\"||\""
  | pipe => "\"|\""
  | opening => "\"(\""
  | closing => "\")\""
  | armEnd => "\";;\""
  | ended => "end of file"
  | redirect => "redirection"
  | word => "word"
  | keyword name => "\"" ++ name ++ "\""

/-- The words that have a meaning of their own. -/
def keywords : List String :=
  ["!", "case", "do", "done", "elif", "else", "esac", "fi", "for", "if", "in", "then", "until",
   "while", "\x7b", "\x7d"]

/-- A list of commands can end before the token. -/
def endsList : Token → Bool
  | ended | closing | armEnd => true
  | keyword name =>
    ["do", "done", "elif", "else", "esac", "fi", "then", "\x7d"].contains name
  | _ => false

end Token

/-- What the sign of a redirection asks for. -/
inductive RedirectSign where
  | read
  | write
  | overwrite
  | append
  | update
  | duplicate
  /-- A text below; `dedent` if tabs at the front of its lines do not count. -/
  | document (dedent : Bool)
  deriving DecidableEq, Repr, Inhabited

/-- The line that ends a text below a command. -/
structure EndLine where
  mark : Letters
  dedent : Bool
  deriving DecidableEq, Repr, Inhabited

/-- A text below a command that has not been read yet. -/
structure PendingText where
  /-- Its number among all texts. -/
  number : Nat
  endLine : EndLine
  /-- Parameters in it are replaced. -/
  active : Bool
  deriving DecidableEq, Repr, Inhabited

/-- What is looked for when the next token is read. -/
structure Expected where
  /-- Ends of lines are skipped. -/
  skipLines : Bool := false
  keywords : Bool := false
  aliases : Bool := false
  /-- The token is the end of a text below, so nothing in it is replaced. -/
  endMark : Bool := false
  deriving DecidableEq, Repr, Inhabited

/-- The text of an alias that is being read. -/
structure AliasInUse where
  name : Letters
  /-- The alias ends in a blank. -/
  blankAtEnd : Bool
  /-- The length of the text after it. -/
  after : Nat
  deriving DecidableEq, Repr, Inhabited

/-- Where reading stands. -/
structure Reader where
  /-- What has not been read. -/
  rest : Letters := []
  /-- No more text follows. -/
  complete : Bool := true
  line : Nat := 1
  /-- The last token is read once more. -/
  again : Bool := false
  last : Token := .lineEnd
  /-- The last word. -/
  word : Word := []
  /-- The last sign of a redirection, and the descriptor before it. -/
  sign : RedirectSign := .read
  descriptor : Nat := 0
  expected : Expected := {}
  pending : List PendingText := []
  /-- The texts below commands, by number. -/
  documents : Array Word := #[]
  aliases : List (Letters × Letters) := []
  inUse : List AliasInUse := []
  deriving Inhabited

/-- Why reading ends without a result. -/
inductive Stop where
  /-- The text goes on. -/
  | unfinished
  /-- The text makes no sense. -/
  | wrong (text : String)
  deriving DecidableEq, Repr, Inhabited

/-- Something that a reader does. -/
abbrev Reading := ExceptT Stop (StateM Reader)

namespace Reading

/-- The text makes no sense. -/
def fail {α : Type} (text : String) : Reading α := throw (.wrong text)

/-- There are more parts inside each other than can be read. -/
def exhausted {α : Type} : Reading α := fail "out of memory"

/-- The last token was not the right one. -/
def unexpected {α : Type} (wanted : Option Token := none) : Reading α := do
  let last := (← get).last.shown
  match wanted with
  | none => fail (last ++ " unexpected")
  | some t => fail (last ++ " unexpected (expecting " ++ t.shown ++ ")")

/-- The number of line ends in a text. -/
def lineEnds (s : Letters) : Nat := s.foldl (fun n c => if c == '\n' then n + 1 else n) 0

/-- Goes on after a text that has been read. -/
def passTo (passed rest : Letters) : Reading Unit :=
  modify fun r => { r with rest := rest, line := r.line + lineEnds passed }

/-- The text without line ends that are not to count, and how many these are. -/
def withoutJoints (count : Nat) : Letters → Nat × Letters
  | '\\' :: '\n' :: s => withoutJoints (count + 1) s
  | s => (count, s)

/-- Skips line ends that are not to count. -/
def join : Reading Unit := do
  let r ← get
  match r.rest with
  | '\\' :: _ =>
    let (n, s) := withoutJoints 0 r.rest
    if s == ['\\'] && !r.complete then throw .unfinished
    set { r with rest := s, line := r.line + n }
  | _ => return

/-- The next character as it stands, if there is one. -/
def lookRaw : Reading (Option Char) := do
  let r ← get
  match r.rest with
  | c :: _ => return some c
  | [] => if r.complete then return none else throw .unfinished

/-- The next character, if there is one. -/
def look : Reading (Option Char) := do
  join
  lookRaw

/-- Skips one character. -/
def skip : Reading Unit :=
  modify fun r =>
    match r.rest with
    | c :: s => { r with rest := s, line := if c == '\n' then r.line + 1 else r.line }
    | [] => r

/-- Skips a character if it comes next. -/
def accept (c : Char) : Reading Bool := do
  if (← look) == some c then
    skip
    return true
  else return false

/-- Takes the characters that satisfy `p`. -/
def takeRaw (p : Char → Bool) : Reading Letters := do
  let r ← get
  let (s, rest) := r.rest.span p
  if rest.isEmpty && !r.complete then throw .unfinished
  passTo s rest
  return s

/-- Takes the characters that satisfy `p`, also over line ends that do not count. -/
def take (p : Char → Bool) : (fuel : Nat) → Reading Letters
  | 0 => return []
  | fuel + 1 => do
    join
    let s ← takeRaw p
    match (← get).rest with
    | '\\' :: '\n' :: _ => return s ++ (← take p fuel)
    | _ => return s

/-- Reads another text from its first line on, and then goes on with this one. -/
def within {α : Type} (s : Letters) (a : Reading α) : Reading α := do
  let outer ← get
  let inUse := outer.inUse.map fun a : AliasInUse => { a with after := 0 }
  set { outer with
    rest := s, complete := true, line := 1, again := false, pending := [], inUse := inUse }
  let x ← a
  modify fun r =>
    { r with
      rest := outer.rest, complete := outer.complete, line := outer.line, again := false
      pending := outer.pending, inUse := outer.inUse }
  return x

end Reading

end LintDispatch.Shell
