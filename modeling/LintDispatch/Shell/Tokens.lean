import LintDispatch.Shell.Words

/-!
# Reading tokens
A program text is read one token at a time. The last token can be given back. Before a token stand
blanks and comments; what is expected decides whether a word is a keyword or an alias.
-/

namespace LintDispatch.Shell

namespace Reading

/-- Says what is looked for next. -/
def expect (x : Expected) : Reading Unit := modify fun r => { r with expected := x }

/-- Lets the last token be read once more. -/
def giveBack : Reading Unit := modify fun r => { r with again := true }

/-- Remembers a token. -/
def found (t : Token) : Reading Token := do
  modify fun r => { r with last := t }
  return t

/-- Reads the texts below the last line. -/
def readDocuments (command : CommandReader) (n : Nat) : List PendingText → Reading Unit
  | [] => return
  | t :: ts => do
    let w ← document command n t
    modify fun r => { r with documents := r.documents.setIfInBounds t.number w }
    readDocuments command n ts

/-- Reads the texts below the last line that have not been read yet. -/
def documentsBelow (command : CommandReader) (n : Nat) : Reading Unit := do
  let pending := (← get).pending
  if pending.isEmpty then return
  modify fun r => { r with pending := [] }
  let expected := (← get).expected
  modify fun r => { r with expected := {} }
  readDocuments command n pending
  modify fun r => { r with expected := expected }

/-- Leaves the aliases whose text has been read. A blank at the end of one lets the next word be an
alias too. -/
def leaveAliases : Reading Unit :=
  modify fun r =>
    if r.inUse.isEmpty then r
    else
      let left := r.rest.length
      let (done, inUse) := r.inUse.partition fun a => left ≤ a.after
      if done.any (·.blankAtEnd) then
        { r with inUse := inUse, expected := { r.expected with aliases := true } }
      else { r with inUse := inUse }

/-- Skips blanks and comments. -/
def skipBlanks : (fuel : Nat) → Reading Unit
  | 0 => return
  | fuel + 1 => do
    match ← look with
    | some ' ' | some '\t' =>
      let _ ← takeRaw Letters.isBlank
      leaveAliases
      skipBlanks fuel
    | some '#' =>
      let _ ← takeRaw (· != '\n')
    | _ => return

/-- Reads the sign of a redirection. -/
def redirectSign (digit : Option Char) : Reading Token := do
  let (standard, sign) : Nat × RedirectSign ←
    if ← accept '>' then
      if ← accept '>' then pure (1, .append)
      else if ← accept '|' then pure (1, .overwrite)
      else if ← accept '&' then pure (1, .duplicate)
      else pure (1, .write)
    else
      skip
      if ← accept '<' then pure (0, .document (← accept '-'))
      else if ← accept '&' then pure (0, .duplicate)
      else if ← accept '>' then pure (0, .update)
      else pure (0, .read)
  modify fun r =>
    { r with sign := sign, descriptor := (digit.map Letters.digit).getD standard }
  found .redirect

/-- The word is so short that it can be the descriptor in front of a redirection. -/
def descriptorBefore? : Word → Option (Option Char)
  | [] => some none
  | [.text false [c]] => if c.isDigit then some (some c) else none
  | _ => none

/-- Reads a word, or the sign of a redirection with the descriptor before it. -/
def wordToken (command : CommandReader) (n : Nat) : Reading Token := do
  let w ← parts command none n .plain
  let next := (← get).rest.head?
  match descriptorBefore? w with
  | some digit =>
    if next == some '<' || next == some '>' then redirectSign digit
    else
      modify fun r => { r with word := w }
      found .word
  | none =>
    modify fun r => { r with word := w }
    found .word

/-- Reads a token, whatever is expected. -/
def bareToken (command : CommandReader) (n : Nat) : Reading Token := do
  if (← get).again then
    modify fun r => { r with again := false }
    return (← get).last
  skipBlanks n
  match ← look with
  | none => found .ended
  | some '\n' =>
    skip
    found .lineEnd
  | some '&' =>
    skip
    if ← accept '&' then found .and else found .background
  | some '|' =>
    skip
    if ← accept '|' then found .or else found .pipe
  | some ';' =>
    skip
    if ← accept ';' then found .armEnd else found .semicolon
  | some '(' =>
    skip
    found .opening
  | some ')' =>
    skip
    found .closing
  | some _ => wordToken command n

/-- Skips the ends of lines, and reads the token after them. -/
def afterLines (command : CommandReader) : (fuel : Nat) → Token → Reading Token
  | fuel + 1, .lineEnd => do
    documentsBelow command fuel
    modify fun r => { r with expected := {} }
    afterLines command fuel (← bareToken command fuel)
  | _, t => return t

/-- Puts the text of an alias in front of what follows. -/
def insertAlias (name value : Letters) : Reading Unit :=
  modify fun r =>
    let blank := (value.getLast?.map Letters.isBlank).getD false
    let text := if value.isEmpty || blank then value else value ++ [' ']
    { r with
      rest := text ++ r.rest
      inUse := ⟨name, blank, r.rest.length⟩ :: r.inUse }

/-- Reads a token. -/
def token (command : CommandReader) : (fuel : Nat) → Reading Token
  | 0 => exhausted
  | n + 1 => do
    let before := (← get).expected
    let t ← bareToken command n
    let t ← if before.skipLines then afterLines command n t else pure t
    let after := (← get).expected
    expect {}
    let keywords := before.keywords || after.keywords
    let aliases := before.aliases || after.aliases
    if t != .word then return t
    match plainLetters? (← get).word with
    | none => return t
    | some s =>
      if keywords && Token.keywords.contains (String.ofList s) then
        found (.keyword (String.ofList s))
      else if aliases then
        let r ← get
        match r.aliases.find? (·.1 == s) with
        | some (_, value) =>
          if r.inUse.any fun a => a.name == s && a.after < r.rest.length then return t
          else
            insertAlias s value
            expect { keywords := keywords, aliases := aliases, skipLines := before.skipLines }
            token command n
        | none => return t
      else return t

end Reading

end LintDispatch.Shell
