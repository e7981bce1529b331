import LintDispatch.Shell.Reader

/-!
# Reading words
A word is read in one of several modes: as it stands, in quotes, inside the braces of a parameter,
inside the brackets of a number, or as a text below a command. The mode says which characters have a
meaning and where the word ends. What stands inside the brackets of a command is read by a parameter
of these functions.
-/

namespace LintDispatch.Shell

/-- How a part of a word is read, and so where it ends. -/
inductive Mode where
  /-- As it stands, up to a blank or a sign. -/
  | plain
  /-- Up to the brace that closes a parameter. -/
  | braces
  /-- Up to the closing quote. The quotes may stand inside braces. -/
  | quotes (inBraces : Bool)
  /-- In quotes, up to the brace that closes a parameter. More quotes in between only hide that
  brace. -/
  | quotedBraces (hidden : Bool)
  /-- Up to the two brackets that close a number; `depth` brackets are open besides. -/
  | number (depth : Nat)
  /-- A text below a command. -/
  | document
  deriving DecidableEq, Repr, Inhabited

namespace Mode

/-- What is read is not split or matched against file names. -/
def isQuoted : Mode → Bool
  | plain | braces => false
  | _ => true

/-- Braces around what is read are open. -/
def inBraces : Mode → Bool
  | braces | quotedBraces _ => true
  | quotes b => b
  | _ => false

/-- The mode for the word of a parameter. -/
def forParameter : Mode → Mode
  | plain | braces => braces
  | _ => quotedBraces false

end Mode

/-- A character that ends a word. -/
def isMeta (c : Char) : Bool :=
  Letters.isBlank c || c == '\n' || c == ';' || c == '&' || c == '|' || c == '<' || c == '>' ||
    c == '(' || c == ')'

/-- The name of a parameter that is no variable. -/
def isSpecialParameter (c : Char) : Bool := c.isDigit || "@*#?-$!".toList.contains c

/-- The letters of a word without any quotes or parameters. -/
def plainLetters? (w : Word) : Option Letters :=
  w.foldr (fun p s =>
    match p, s with
    | .text false t, some s => some (t ++ s)
    | _, _ => none) (some [])

/-- Some part of a word is quoted. -/
def hasQuotes (w : Word) : Bool :=
  w.any fun
    | .text q _ => q
    | _ => false

/-- The letters that a word spells before anything is replaced. -/
def spelled (w : Word) : Letters :=
  w.flatMap fun
    | .text _ s => s
    | _ => []

namespace Reading

/-- Reads a command in brackets or backquotes. -/
abbrev CommandReader := Reading (Option Command)

/-- Skips the line that ends a text below a command, if it comes next. Tabs in front of a line may
not count. -/
def atEndLine (e : EndLine) : Reading Bool := do
  let r ← get
  let s := if e.dedent then r.rest.dropWhile (· == '\t') else r.rest
  if e.dedent then
    if s.isEmpty && !r.complete then throw .unfinished
    set { r with rest := s }
  if e.mark.isPrefixOf s then
    match s.drop e.mark.length with
    | [] =>
      if !r.complete then throw .unfinished
      set { r with rest := [] }
      return true
    | '\n' :: after =>
      set { r with rest := after, line := r.line + 1 }
      return true
    | _ => return false
  else if s.isPrefixOf e.mark && !r.complete then throw .unfinished
  else return false

/-- The text inside backquotes, without the backslashes that protect something from being the end or
a beginning. -/
def backquoted (quoted : Bool) (done : List Char) : Letters → Option (Letters × Letters)
  | [] => none
  | '`' :: s => some (done.reverse, s)
  | '\\' :: '\n' :: s => backquoted quoted done s
  | '\\' :: c :: s =>
    if c == '\\' || c == '`' || c == '$' || (quoted && c == '"') then backquoted quoted (c :: done) s
    else backquoted quoted (c :: '\\' :: done) s
  | c :: s => backquoted quoted (c :: done) s

/-- Reads a command in backquotes. -/
def oldOutput (command : CommandReader) (mode : Mode) : Reading Part := do
  let r ← get
  match backquoted mode.isQuoted [] r.rest with
  | none =>
    if !r.complete then throw .unfinished
    passTo r.rest []
    fail "EOF in backquote substitution"
  | some (text, rest) =>
    passTo (r.rest.take (r.rest.length - rest.length)) rest
    return .output mode.isQuoted (← within text command)

/-- Reads a command in brackets. -/
def newOutput (command : CommandReader) (mode : Mode) : Reading Part := do
  let pending := (← get).pending
  modify fun r => { r with pending := [] }
  let c ← command
  if (← get).last != .closing then unexpected (some .closing)
  modify fun r => { r with again := false, pending := pending }
  return .output mode.isQuoted c

/-- Reads single quotes up to their end. -/
def singleQuoted (e : Option EndLine) : (fuel : Nat) → Reading Letters
  | 0 => exhausted
  | fuel + 1 => do
    let s ← takeRaw fun c => c != '\'' && (e.isNone || c != '\n')
    match ← lookRaw with
    | none => fail "Unterminated quoted string"
    | some '\n' =>
      skip
      if ← (e.map atEndLine).getD (pure false) then fail "Missing '\x7d'"
      return s ++ '\n' :: (← singleQuoted e fuel)
    | some _ =>
      skip
      return s

/-- A character that stands for itself, as far as the mode is concerned. -/
def isOrdinary (mode : Mode) (e : Option EndLine) (c : Char) : Bool :=
  c != '\\' && c != '`' && c != '$' && (c != '\n' || (e.isNone && mode != .plain)) &&
    match mode with
    | .plain => !isMeta c && c != '\'' && c != '"'
    | .braces => c != '\'' && c != '"' && c != '}'
    | .quotes _ => c != '"'
    | .quotedBraces hidden => c != '"' && (hidden || c != '}')
    | .number _ => c != '(' && c != ')'
    | .document => true

/-- What is wrong if a text ends in a mode: nothing, if it may. -/
def endFault? (mode : Mode) (e : Option EndLine) : Option String :=
  match mode with
  | .plain | .document => none
  | .braces => some "Missing '\x7d'"
  | .number _ => some "Missing '))'"
  | .quotes _ | .quotedBraces _ =>
    some (if e.isSome then "Missing '\x7d'" else "Unterminated quoted string")

/-- A backslash protects the character only from meaning something else. -/
def losesBackslash (mode : Mode) (e : Option EndLine) (c : Char) : Bool :=
  !mode.isQuoted || c == '\\' || c == '`' || c == '$' ||
    (c == '"' && (e.isNone || mode.inBraces)) || (c == '}' && mode.inBraces)

/-- All arguments, each as one word. -/
def isAllArguments : Word → Bool
  | [.param true ['@'] .value] => true
  | _ => false

/-- The parts of a word in quotes: something stands there even if it is nothing. -/
def quotedParts (w : Word) : Word := if isAllArguments w then w else .text true [] :: w

/-- The use of a parameter that a character asks for. -/
def useOf? (colon : Bool) (w : Word) : Char → Option (Use Word)
  | '-' => some (.default colon w)
  | '=' => some (.assign colon w)
  | '+' => some (.instead colon w)
  | '?' => some (.demand colon w)
  | _ => none

mutual

/-- Reads the parts of a word up to where the mode ends. -/
def parts (command : CommandReader) (e : Option EndLine) (n : Nat) (mode : Mode) : Reading Word :=
  match n with
  | 0 => exhausted
  | n + 1 => do
    let ends : Reading Word :=
      match endFault? mode e with
      | none => return []
      | some fault => fail fault
    let literal (mode' : Mode) (c : Char) : Reading Word := do
      skip
      return .text mode.isQuoted [c] :: (← parts command e n mode')
    match ← look with
    | none => ends
    | some c =>
      if isOrdinary mode e c then
        let s ← takeRaw (isOrdinary mode e)
        return .text mode.isQuoted s :: (← parts command e n mode)
      else if c == '\n' && mode != .plain then
        skip
        if ← (e.map atEndLine).getD (pure false) then
          match endFault? mode e with
          | none => return [.text true ['\n']]
          | some fault => fail fault
        else return .text mode.isQuoted ['\n'] :: (← parts command e n mode)
      else
        match c, mode with
        | '\\', _ =>
          skip
          match ← lookRaw with
          | none => return .text true ['\\'] :: (← ends)
          | some c =>
            skip
            let s := if losesBackslash mode e c then [c] else ['\\', c]
            return .text true s :: (← parts command e n mode)
        | '\'', .plain | '\'', .braces =>
          skip
          let s ← singleQuoted e n
          return .text true s :: (← parts command e n mode)
        | '"', .plain | '"', .braces =>
          skip
          let w ← parts command e n (.quotes (mode == .braces))
          return quotedParts w ++ (← parts command e n mode)
        | '"', .quotes _ =>
          skip
          return []
        | '"', .quotedBraces hidden =>
          skip
          return .text true [] :: (← parts command e n (.quotedBraces !hidden))
        | '}', .braces | '}', .quotedBraces false =>
          skip
          return []
        | '(', .number depth => literal (.number (depth + 1)) '('
        | ')', .number (depth + 1) => literal (.number depth) ')'
        | ')', .number 0 =>
          skip
          if ← accept ')' then return []
          else return .text true [')'] :: (← parts command e n mode)
        | '`', _ =>
          if (← get).expected.endMark then literal mode '`'
          else
            skip
            let p ← oldOutput command mode
            return p :: (← parts command e n mode)
        | '$', _ =>
          skip
          let p ← dollar command e n mode
          return p :: (← parts command e n mode)
        | _, _ => return []

/-- Reads what follows a dollar sign. -/
def dollar (command : CommandReader) (e : Option EndLine) (n : Nat) (mode : Mode) : Reading Part :=
  match n with
  | 0 => exhausted
  | n + 1 => do
    let q := mode.isQuoted
    let itself : Part := .text q ['$']
    if (← get).expected.endMark then return itself
    match ← look with
    | none => return itself
    | some '(' =>
      skip
      if ← accept '(' then
        let w ← parts command e n (.number 0)
        return .number q w
      else newOutput command mode
    | some '{' =>
      skip
      braced command e n mode
    | some c =>
      if Letters.isNameStart c then
        let name ← take Letters.isNameRest n
        return .param q name .value
      else if isSpecialParameter c then
        skip
        return .param q [c] .value
      else return itself

/-- Reads a parameter after its opening brace. -/
def braced (command : CommandReader) (e : Option EndLine) (n : Nat) (mode : Mode) : Reading Part :=
  match n with
  | 0 => exhausted
  | n + 1 => do
    let q := mode.isQuoted
    let wrong : Reading Part := do
      let _ ← parts command e n mode.forParameter
      return .param q [] .wrong
    let lengthOf (name : Letters) : Reading Part := do
      if ← accept '}' then return .param q name .length else wrong
    match ← look with
    | none => wrong
    | some '}' => wrong
    | some '#' =>
      skip
      match ← look with
      | none => wrong
      | some c =>
        if Letters.isNameStart c then lengthOf (← take Letters.isNameRest n)
        else if c.isDigit then lengthOf (← take Char.isDigit n)
        else
          let before ← get
          skip
          if (← look) == some '}' && c != '}' then
            if isSpecialParameter c then lengthOf [c] else wrong
          else
            set before
            usage command e n mode ['#']
    | some c =>
      if Letters.isNameStart c then usage command e n mode (← take Letters.isNameRest n)
      else if c.isDigit then usage command e n mode (← take Char.isDigit n)
      else
        skip
        if isSpecialParameter c then usage command e n mode [c] else wrong

/-- Reads how a parameter is used, up to its closing brace. -/
def usage (command : CommandReader) (e : Option EndLine) (n : Nat) (mode : Mode) (name : Letters) :
    Reading Part :=
  match n with
  | 0 => exhausted
  | n + 1 => do
    let q := mode.isQuoted
    let colon ← accept ':'
    match ← look with
    | none =>
      let _ ← parts command e n mode.forParameter
      return .param q name .wrong
    | some c =>
      skip
      if c == '}' && !colon then return .param q name .value
      else if (c == '%' || c == '#') && !colon then
        let longest ← accept c
        let w ← parts command e n .braces
        return .param q name (.without (c == '%') longest w)
      else
        let w ← parts command e n mode.forParameter
        return .param q name ((useOf? colon w c).getD .wrong)

end

/-- Reads a text below a command. -/
def document (command : CommandReader) (n : Nat) (t : PendingText) : Reading Word := do
  if ← atEndLine t.endLine then return []
  else if t.active then parts command (some t.endLine) n .document
  else rawDocument n t.endLine
where
  /-- Reads a text in which nothing is replaced. -/
  rawDocument : Nat → EndLine → Reading Word
    | 0, _ => exhausted
    | n + 1, e => do
      let s ← takeRaw (· != '\n')
      match ← lookRaw with
      | none => return [.text true s]
      | some _ =>
        skip
        let line : Part := .text true (s ++ ['\n'])
        if ← atEndLine e then return [line] else return line :: (← rawDocument n e)

end Reading

end LintDispatch.Shell
