import LintDispatch.Shell.Tokens

/-!
# Reading commands
Commands are read one line of the program at a time: what stands further down is only read when the
commands before it have run. Every reader takes fuel, which bounds how deeply it may call others.
-/

namespace LintDispatch.Shell

/-- The commands of the shell after whose failure it ends, and which no function can replace. -/
def specialNames : List String :=
  [".", ":", "break", "continue", "eval", "exec", "exit", "export", "local", "readonly", "return",
   "set", "shift", "times", "trap", "unset"]

/-- What ends a list of commands. -/
inductive Extent where
  /-- The end of the line. -/
  | line
  /-- A token that ends lists; there must be a command before it. -/
  | body
  /-- A token that ends lists. -/
  | optional
  deriving DecidableEq, Repr, Inhabited

namespace Reading

/-- At the beginning of a command. -/
def commandStart : Expected := { skipLines := true, keywords := true, aliases := true }

/-- Reads a token that must be this one. -/
def require (command : CommandReader) (n : Nat) (t : Token) : Reading Unit := do
  if (← token command n) != t then unexpected (some t)

/-- Commands one after the other, the last one first. -/
def inSequence (done : List Command) : Option Command :=
  match done with
  | [] => none
  | [c] => some c
  | cs => some (.sequence cs.reverse)

/-- A command that nobody waits for. -/
def inBackground (line : Nat) : Command → Command
  | .pipe _ stages => .pipe true stages
  | .redirected line c rs => .background line c rs
  | c => .background line c []

/-- The name and the value that a word assigns. -/
def assignment? (w : Word) : Option (Letters × Word) :=
  match w with
  | .text false s :: rest =>
    match Letters.spanName s with
    | ([], _) => none
    | (name, '=' :: value) =>
      some (name, if value.isEmpty then rest else .text false value :: rest)
    | _ => none
  | _ => none

/-- Reads the target of the redirection whose sign has been read. -/
def redirectTarget (command : CommandReader) (n : Nat) : Reading Redirect := do
  let r ← get
  match r.sign with
  | .document dedent =>
    expect { endMark := true }
    if (← token command n) != .word then unexpected
    let w := (← get).word
    let number := (← get).documents.size
    modify fun r =>
      { r with
        documents := r.documents.push []
        pending := r.pending ++ [⟨number, ⟨spelled w, dedent⟩, !hasQuotes w⟩] }
    return .mk r.descriptor (.document number)
  | sign =>
    if (← token command n) != .word then unexpected
    let w := (← get).word
    return .mk r.descriptor (match sign with
      | .read | .document _ => .read w
      | .write => .write w
      | .overwrite => .overwrite w
      | .append => .append w
      | .update => .update w
      | .duplicate => .duplicate w)

/-- Reads the redirections after a command. -/
def redirects (command : CommandReader) : (fuel : Nat) → Reading (List Redirect)
  | 0 => exhausted
  | n + 1 => do
    if (← token command n) == .redirect then
      let r ← redirectTarget command n
      return r :: (← redirects command n)
    else
      giveBack
      return []

/-- Reads words as long as there are any. -/
def words (command : CommandReader) : (fuel : Nat) → Reading (List Word)
  | 0 => exhausted
  | n + 1 => do
    if (← token command n) == .word then
      let w := (← get).word
      return w :: (← words command n)
    else return []

/-- Reads the patterns of an arm, of which the first one has just been read. -/
def patterns (command : CommandReader) : (fuel : Nat) → Reading (List Word)
  | 0 => exhausted
  | n + 1 => do
    let w := (← get).word
    if (← token command n) == .pipe then
      let _ ← token command n
      return w :: (← patterns command n)
    else return [w]

/-- The parts of a simple command. -/
structure Simple where
  assigns : List (Letters × Word) := []
  words : List Word := []
  redirects : List Redirect := []
  deriving Inhabited

/-- The name of the function that begins here: there is just one word, and brackets follow. -/
def functionName? (s : Simple) : Option Word :=
  match s.assigns, s.words, s.redirects with
  | [], [w], [] => some w
  | _, _, _ => none

/-- What a simple command turns out to be. -/
inductive SimpleOr where
  | command (s : Simple)
  | function (name : Letters)
  deriving Inhabited

/-- Reads the words and redirections of a simple command. The parts are collected last first. -/
def simpleParts (command : CommandReader) : (fuel : Nat) → Simple → Reading SimpleOr
  | 0, _ => exhausted
  | n + 1, s => do
    expect { aliases := s.words.isEmpty }
    match ← token command n with
    | .word =>
      let w := (← get).word
      match if s.words.isEmpty then assignment? w else none with
      | some a => simpleParts command n { s with assigns := a :: s.assigns }
      | none => simpleParts command n { s with words := w :: s.words }
    | .redirect =>
      let r ← redirectTarget command n
      simpleParts command n { s with redirects := r :: s.redirects }
    | t =>
      match t, functionName? s with
      | .opening, some w =>
        require command n .closing
        match plainLetters? w with
        | some name =>
          if !Letters.isName name || specialNames.contains (String.ofList name) then
            fail "Bad function name"
          return .function name
        | none => fail "Bad function name"
      | _, _ =>
        giveBack
        return .command ⟨s.assigns.reverse, s.words.reverse, s.redirects.reverse⟩

mutual

/-- Reads commands up to where they end; `done` holds those before, last first. -/
def list (n : Nat) (extent : Extent) (done : List Command) : Reading (Option Command) :=
  match n with
  | 0 => exhausted
  | n + 1 => do
    let command := list n .optional []
    expect { commandStart with skipLines := extent != .line }
    match ← token command n with
    | .lineEnd =>
      documentsBelow command n
      return inSequence done
    | .ended =>
      documentsBelow command n
      giveBack
      return inSequence done
    | t =>
      giveBack
      if extent == .optional && t.endsList then return inSequence done
      let extent := if extent == .body then .optional else extent
      let c ← andOr n
      let t ← token command n
      let line := (← get).line
      let c := if t == .background then inBackground line c else c
      match t with
      | .ended =>
        documentsBelow command n
        giveBack
        return inSequence (c :: done)
      | .lineEnd =>
        giveBack
        list n extent (c :: done)
      | .background | .semicolon => list n extent (c :: done)
      | _ =>
        if extent == .line then unexpected
        giveBack
        return inSequence (c :: done)

/-- Reads commands that depend on each other's success. -/
def andOr (n : Nat) : Reading Command :=
  match n with
  | 0 => exhausted
  | n + 1 => do
    let c ← pipeline n
    andOrRest n c

/-- Reads what depends on the success of a command. -/
def andOrRest (n : Nat) (first : Command) : Reading Command :=
  match n with
  | 0 => exhausted
  | n + 1 => do
    match ← token (list n .optional []) n with
    | .and =>
      expect commandStart
      let second ← pipeline n
      andOrRest n (.both first second)
    | .or =>
      expect commandStart
      let second ← pipeline n
      andOrRest n (.either first second)
    | _ =>
      giveBack
      return first

/-- Reads commands connected by pipes. -/
def pipeline (n : Nat) : Reading Command :=
  match n with
  | 0 => exhausted
  | n + 1 => do
    let negated := (← token (list n .optional []) n) == .keyword "!"
    if negated then expect { keywords := true, aliases := true } else giveBack
    let c ← single n
    let cs ← stages n
    let c := if cs.isEmpty then c else .pipe false (c :: cs)
    return if negated then .negate c else c

/-- Reads the commands after the first one of a pipeline. -/
def stages (n : Nat) : Reading (List Command) :=
  match n with
  | 0 => exhausted
  | n + 1 => do
    if (← token (list n .optional []) n) == .pipe then
      expect commandStart
      let c ← single n
      return c :: (← stages n)
    else
      giveBack
      return []

/-- Reads a list of commands that must not be empty. -/
def body (n : Nat) : Reading Command :=
  match n with
  | 0 => exhausted
  | n + 1 => do return (← list n .body []).getD default

/-- Reads the other branches of a choice, whose keyword comes next. -/
def otherBranches (n : Nat) : Reading (Option Command) :=
  match n with
  | 0 => exhausted
  | n + 1 => do
    match ← token (list n .optional []) n with
    | .keyword "elif" =>
      let condition ← body n
      require (list n .optional []) n (.keyword "then")
      let yes ← body n
      let no ← otherBranches n
      return some (.branch condition yes no)
    | .keyword "else" => return some (← body n)
    | _ =>
      giveBack
      return none

/-- Reads the arms of a choice and its end. -/
def arms (n : Nat) : Reading (List (List Word × Option Command)) :=
  match n with
  | 0 => exhausted
  | n + 1 => do
    let command := list n .optional []
    expect { skipLines := true, keywords := true }
    let t ← token command n
    if t == .keyword "esac" then return []
    if t == .opening then
      let _ ← token command n
    let ps ← patterns command n
    if (← get).last != .closing then unexpected (some .closing)
    let c ← list n .optional []
    expect { skipLines := true, keywords := true }
    match ← token command n with
    | .keyword "esac" => return [(ps, c)]
    | .armEnd => return (ps, c) :: (← arms n)
    | _ => unexpected (some .armEnd)

/-- Reads a command without pipes. -/
def single (n : Nat) : Reading Command :=
  match n with
  | 0 => exhausted
  | n + 1 => do
    let command := list n .optional []
    let line := (← get).line
    /- A redirection after a command belongs to it. -/
    let finish (c : Command) : Reading Command := do
      expect { keywords := true, aliases := true }
      let rs ← redirects command n
      match rs, c with
      | [], c => return c
      | rs, .subshell line c _ => return .subshell line c rs
      | rs, c => return .redirected line c rs
    match ← token command n with
    | .keyword "if" =>
      let condition ← body n
      require command n (.keyword "then")
      let yes ← body n
      let no ← otherBranches n
      require command n (.keyword "fi")
      finish (.branch condition yes no)
    | .keyword "while" =>
      let condition ← body n
      require command n (.keyword "do")
      let c ← body n
      require command n (.keyword "done")
      finish (.loop false condition c)
    | .keyword "until" =>
      let condition ← body n
      require command n (.keyword "do")
      let c ← body n
      require command n (.keyword "done")
      finish (.loop true condition c)
    | .keyword "for" =>
      let t ← token command n
      let name := (plainLetters? (← get).word).getD []
      if t != .word || !Letters.isName name then fail "Bad for loop variable"
      expect commandStart
      let values ← if (← token command n) == .keyword "in" then do
          let ws ← words command n
          let last := (← get).last
          if last != .lineEnd && last != .semicolon then unexpected
          pure ws
        else do
          if (← get).last != .semicolon then giveBack
          pure [[.param true ['@'] .value]]
      expect commandStart
      require command n (.keyword "do")
      let c ← body n
      require command n (.keyword "done")
      finish (.each line name values c)
    | .keyword "case" =>
      require command n .word
      let subject := (← get).word
      expect commandStart
      require command n (.keyword "in")
      finish (.choose line subject (← arms n))
    | .opening =>
      let c ← body n
      require command n .closing
      finish (.subshell line c [])
    | .keyword "\x7b" =>
      let c ← body n
      require command n (.keyword "\x7d")
      finish c
    | .word | .redirect =>
      giveBack
      let line := (← get).line
      match ← simpleParts command n {} with
      | .command s => return .simple line s.assigns s.words s.redirects
      | .function name =>
        expect commandStart
        return .define name (← single n)
    | _ => unexpected

end

/-- What a line of a program text turns out to be. -/
inductive Line where
  /-- The text is over. -/
  | over
  /-- A line without a command, or with one; `last` says that nothing follows. -/
  | command (c : Option Command) (last : Bool)
  deriving Inhabited

/-- How deeply readers may call others. -/
def depth : Nat := 1000000000

/-- Reads the next line. -/
def nextLine : Reading Line := do
  modify fun r => { r with again := false, expected := {}, pending := [] }
  let c ← list depth .line []
  let r ← get
  let last := r.again && r.last == .ended
  if c.isNone && last then return .over else return .command c last

end Reading

end LintDispatch.Shell
