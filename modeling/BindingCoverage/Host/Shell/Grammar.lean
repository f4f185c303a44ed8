import BindingCoverage.Host.Shell.Word

/-!
# Reading commands

The grammar of the shell, read one complete line of commands after the other. A fault says which
token was not expected, and which one was if there is only one.

The reader of a list of commands is what the others need of each other; it is given to them as
`Lists`, and `lists` ties the knot, one level of nesting after the other.
-/

namespace BindingCoverage.Host.Shell

/-- Where a list of commands ends. -/
inductive Extent where
  /-- At the end of a line. -/
  | line
  /-- Where a command cannot go on; there is at least one command. -/
  | nested
  /-- The same, but there may be no command. -/
  | nestedOrEmpty
  deriving DecidableEq, Repr

/-- The reader of lists. At the end of the script there is no list. -/
abbrev Lists := Extent → Reading (Option Command)

namespace Reading

/-! ## Here-documents -/

/-- The lines up to the delimiter, which is taken too. The flag says whether the line goes on the
one before. -/
def documentLines (a : Awaited) : Nat → Bool → List Char → List (List Char) → Nat →
    List (List Char) × List Char × Nat
  | 0, _, rest, done, count => (done.reverse, rest, count)
  | _ + 1, _, [], done, count => (done.reverse, [], count)
  | fuel + 1, goesOn, s, done, count =>
    let s := if a.withoutTabs && !goesOn then s.dropWhile (· == '\t') else s
    let line := s.takeWhile (· != '\n')
    let after := s.drop line.length
    let rest := after.drop 1
    if !goesOn && String.ofList line == a.delimiter then (done.reverse, rest, count + 1)
    else
      let backslashes := (line.reverse.takeWhile (· == '\\')).length
      let next := !a.isLiteral && backslashes % 2 == 1 && !after.isEmpty
      documentLines a fuel next rest ((line ++ after.take 1) :: done) (count + 1)

/-- Reads a here-document that has been asked for. -/
def document (nested : Nested) (a : Awaited) : Reading Unit := do
  let r ← get
  let (lines, rest, count) := documentLines a (r.rest.length + 1) false r.rest [] 0
  let text := lines.flatten
  let word : Word ←
    if a.isLiteral then pure [.literal (String.ofList text)]
    else within text (partsIn nested .document)
  modify fun r =>
    { r with rest, line := r.line + count, documents := (a.number, word) :: r.documents }

/-- Reads all here-documents that have been asked for. -/
def documents (nested : Nested) : Reading Unit := do
  let awaited := (← get).awaited
  modify fun r => { r with awaited := [] }
  awaited.forM (document nested)

/-! ## Tokens -/

/-- An operator of redirection after its first character. -/
def direction (nested : Bool) : Reading Direction := do
  if nested then
    if ← take? '>' then return .file .append
    else if ← take? '|' then return .file .overwrite
    else if ← take? '&' then return .copy
    else return .file .write
  else if ← take? '<' then return .document (← take? '-')
  else if ← take? '&' then return .copy
  else if ← take? '>' then return .file .readAndWrite
  else return .file .read

def redirection (descriptor : Option Nat) : Reading Token := do
  let writes := (← peek?) == some '>'
  drop 1
  return .redirection (descriptor.getD (if writes then 1 else 0)) (← direction writes)

/-- Takes blanks and comments. -/
def skipBlanks : Reading Unit :=
  loop () fun () => do
    match ← peek? with
    | some ' ' | some '\t' => do
      discard (takeWhile fun c => c == ' ' || c == '\t')
      return .inl ()
    | some '#' => do
      discard (takeWhile (· != '\n'))
      return .inl ()
    | _ => return .inr ()

def isQuotedPart : Part → Bool
  | .literal _ | .quoted _ => true
  | _ => false

/-- The next token of the script. -/
def freshToken (nested : Nested) : Reading Token := do
  crossing skipBlanks
  match ← peek? with
  | none => do
    documents nested
    return .ending
  | some '\n' => do
    takeCounted '\n'
    documents nested
    return .newline
  | some '&' => do
    drop 1
    return if ← take? '&' then .both else .background
  | some '|' => do
    drop 1
    return if ← take? '|' then .either else .pipe
  | some ';' => do
    drop 1
    return if ← take? ';' then .endOfArm else .semicolon
  | some '(' => drop 1; return .open_
  | some ')' => drop 1; return .close
  | some '<' | some '>' => redirection none
  | some c => do
    let next := ((← get).rest.drop 1).head?
    if c.isDigit && (next = some '<' || next = some '>') then
      drop 1
      redirection (some (c.toNat - '0'.toNat))
    else
      let word ← partsIn nested .word
      return .word word (word.any isQuotedPart)

def push (t : Token) : Reading Unit := modify fun r => { r with pushed := some t }

/-- The next token, perhaps the next one that is no line break, and perhaps as a keyword. The text
of an alias may come in place of a word. -/
def tokenFrom (nested : Nested) (overLines keywords aliases : Bool) : Reading Token := do
  let one : Reading Token := do
    match (← get).pushed with
    | some t => do
      modify fun r => { r with pushed := none }
      return t
    | none => freshToken nested
  loop aliases fun aliases => do
    let t ←
      if overLines then
        loop () fun () => do
          match ← one with
          | .newline => return .inl ()
          | t => return .inr t
      else one
    let aliases := aliases || (← get).expandsNext
    modify fun r => { r with expandsNext := false }
    match t with
    | .word [.plain s] false =>
      match if keywords then Keyword.all.find? (·.text == s) else none with
      | some k => return .inr (.keyword k)
      | none =>
        if aliases then return if ← expand s then .inl aliases else .inr t
        else return .inr t
    | t => return .inr t

/-- The next token. Where it may be a keyword it may be an alias as well. -/
def token (nested : Nested) (overLines keywords : Bool) : Reading Token :=
  tokenFrom nested overLines keywords keywords

/-- The fault of a token that cannot stand where it does. -/
def unexpected {α : Type} (t : Token) (expected : Option Token) : Reading α :=
  match expected with
  | some e => fail s!"{t.text} unexpected (expecting {e.text})"
  | none => fail s!"{t.text} unexpected"

/-- Takes a token that has to be the given keyword. -/
def expect (nested : Nested) (k : Keyword) : Reading Unit := do
  match ← token nested false true with
  | .keyword other => if k = other then return else unexpected (.keyword other) (some (.keyword k))
  | t => unexpected t (some (.keyword k))

/-! ## Redirections -/

/-- What a word says without its quotes. -/
def delimiterText (w : Word) : String :=
  go w ""
where
  go : List Part → String → String
    | [], s => s
    | .plain t :: rest, s | .literal t :: rest, s => go rest (s ++ t)
    | .quoted inner :: rest, s => go rest (s ++ inside inner "")
    | _ :: rest, s => go rest (s ++ "$")
  inside : List Part → String → String
    | [], s => s
    | .plain t :: rest, s | .literal t :: rest, s => inside rest (s ++ t)
    | _ :: rest, s => inside rest (s ++ "$")

/-- The redirection whose operator was taken. -/
def redirect (nested : Nested) (descriptor : Nat) (d : Direction) : Reading Redirect := do
  match ← token nested false false with
  | .word word isQuoted =>
    match d with
    | .file access => return .file descriptor access word
    | .copy => return .copy descriptor word
    | .document withoutTabs => do
      let number := (← get).nextDocument
      let awaited : Awaited := ⟨number, delimiterText word, isQuoted, withoutTabs⟩
      modify fun r => { r with nextDocument := number + 1, awaited := r.awaited ++ [awaited] }
      return .document descriptor number
  | t => unexpected t none

/-- The redirections that come next. -/
def redirects (nested : Nested) : Reading (List Redirect) :=
  loop [] fun done => do
    match ← token nested false true with
    | .redirection descriptor d => return .inl ((← redirect nested descriptor d) :: done)
    | t => do
      push t
      return .inr done.reverse

/-! ## Commands -/

/-- The builtin commands that end the shell if they fail. -/
def specialBuiltins : List String := [
  ".", ":", "break", "continue", "eval", "exec", "exit", "export", "local", "readonly", "return",
  "set", "shift", "times", "trap", "unset"]

structure Simple where
  assignments : List (String × Word) := []
  words : List Word := []
  redirects : List Redirect := []

/-- A command with a list inside it. -/
def required (lists : Lists) (e : Extent) : Reading Command := do
  return (← lists e).getD .nothing

/-- The body of a function whose name and parentheses were taken. -/
def functionBody (compound : Reading Command) (name : Option String) : Reading Command := do
  match name with
  | some name =>
    if !isName name || specialBuiltins.contains name then fail "Bad function name"
    else
      let line := (← get).line
      return .function line name (← compound)
  | none => fail "Bad function name"

/-- The text of a word that has no other parts. -/
def plainText? : Word → Option String
  | [.plain s] => some s
  | _ => none

/-- A command that is made of words, or the definition of a function. -/
def simple (nested : Nested) (compound : Reading Command) : Reading Command := do
  let line := (← get).line
  loop ({} : Simple) fun s => do
    match ← tokenFrom nested false false s.words.isEmpty with
    | .word word isQuoted =>
      match if s.words.isEmpty then word.assignment? else none with
      | some assignment => return .inl { s with assignments := s.assignments ++ [assignment] }
      | none =>
        if s.words.isEmpty && s.assignments.isEmpty && s.redirects.isEmpty then
          match ← token nested false false with
          | .open_ =>
            match ← token nested false false with
            | .close =>
              return .inr (← functionBody compound (if isQuoted then none else plainText? word))
            | t => unexpected t (some .close)
          | t => do
            push t
            return .inl { s with words := [word] }
        else return .inl { s with words := s.words ++ [word] }
    | .redirection descriptor d =>
      let r ← redirect nested descriptor d
      return .inl { s with redirects := s.redirects ++ [r] }
    | t => do
      push t
      return .inr (.simple line s.assignments s.words s.redirects)

/-- The rest of a conditional after the keyword of a test. -/
def conditional (nested : Nested) (lists : Lists) : Nat → Reading Command
  | 0 => fail "Unreadable"
  | fuel + 1 => do
    let test ← required lists .nested
    expect nested .then_
    let first ← required lists .nested
    match ← token nested false true with
    | .keyword .elif => return .conditional test first (← conditional nested lists fuel)
    | .keyword .else_ => do
      let second ← required lists .nested
      return .conditional test first second
    | t => do
      push t
      return .conditional test first .nothing

/-- The rest of a loop over words. -/
def eachWord (nested : Nested) (lists : Lists) (line : Nat) : Reading Command := do
  match ← token nested false false with
  | .word [.plain name] false =>
    if !isName name then fail "Bad for loop variable"
    let words : List Word ← do
      match ← token nested true true with
      | .keyword .in_ =>
        loop [] fun (words : List Word) => do
          match ← token nested false false with
          | .word word _ => return .inl (word :: words)
          | .newline | .semicolon => return .inr words.reverse
          | t => unexpected t none
      | .semicolon => pure [[.quoted [.parameter "@" .value false []]]]
      | t => do
        push t
        pure [[.quoted [.parameter "@" .value false []]]]
    match ← token nested true true with
    | .keyword .do_ => return .each line name words (← required lists .nested)
    | t => unexpected t (some (.keyword .do_))
  | _ => fail "Bad for loop variable"

/-- The patterns of an arm. -/
def patterns (nested : Nested) (first : Token) : Reading (List Word) := do
  let (last, words) ← loop (first, ([] : List Word)) fun (t, words) => do
    let word : Word :=
      match t with
      | .word word _ => word
      | .keyword k => [.plain k.text]
      | _ => []
    match ← token nested false false with
    | .pipe => return .inl (← token nested false false, word :: words)
    | t => return .inr (t, word :: words)
  match last with
  | .close => return words.reverse
  | t => unexpected t (some .close)

/-- The arms of a choice. -/
def arms (nested : Nested) (lists : Lists) : Reading (List (List Word × Command)) :=
  loop [] fun (done : List (List Word × Command)) => do
    match ← tokenFrom nested true true false with
    | .keyword .esac => return .inr done.reverse
    | t => do
      let first ←
        match t with
        | .open_ => token nested false false
        | t => pure t
      let ws ← patterns nested first
      let body ← required lists .nestedOrEmpty
      let done := (ws, body) :: done
      match ← tokenFrom nested true true false with
      | .keyword .esac => return .inr done.reverse
      | .endOfArm => return .inl done
      | t => unexpected t (some .endOfArm)

def choice (nested : Nested) (lists : Lists) (line : Nat) : Reading Command := do
  match ← token nested false false with
  | .word word _ =>
    match ← token nested true true with
    | .keyword .in_ => return .choice line word (← arms nested lists)
    | t => unexpected t (some (.keyword .in_))
  | t => unexpected t (some (.word [] false))

/-- A command together with the redirections that come after it. -/
def withRedirects (nested : Nested) (line : Nat) (c : Command) : Reading Command := do
  match ← redirects nested, c with
  | [], c => return c
  | rs, .subshell line body _ => return .subshell line body rs
  | rs, c => return .redirected line c rs

/-- A single command. -/
def command (nested : Nested) (lists : Lists) (overLines : Bool) : Nat → Reading Command
  | 0 => fail "Unreadable"
  | fuel + 1 => do
    let compound := command nested lists true fuel
    let line := (← get).line
    let t ← token nested overLines true
    let inner : Command ←
      match t with
      | .keyword .if_ => do
        let c ← conditional nested lists (← get).depth
        expect nested .fi
        pure c
      | .keyword .while_ | .keyword .until_ => do
        let test ← required lists .nested
        expect nested .do_
        let body ← required lists .nested
        expect nested .done
        let untilSuccess := match t with
          | .keyword .until_ => true
          | _ => false
        pure (.loop untilSuccess test body)
      | .keyword .for_ => do
        let c ← eachWord nested lists line
        expect nested .done
        pure c
      | .keyword .case_ => choice nested lists line
      | .open_ => do
        let body ← required lists .nested
        match ← token nested false true with
        | .close => pure (.subshell line body [])
        | t => unexpected t (some .close)
      | .keyword .opening => do
        let body ← required lists .nested
        expect nested .closing
        pure body
      | .word _ _ | .redirection _ _ => do
        push t
        return ← simple nested compound
      | t => unexpected t none
    withRedirects nested line inner

/-- Commands of which each reads what the one before it writes. -/
def pipeline (nested : Nested) (lists : Lists) (overLines : Bool) : Reading Command := do
  let one (overLines : Bool) : Reading Command := do
    command nested lists overLines (← get).depth
  let (isNegated, overLines) ←
    match ← token nested overLines true with
    | .keyword .bang => pure (true, false)
    | t => do
      push t
      pure (false, false)
  let first ← one overLines
  let others ← loop [] fun (done : List Command) => do
    match ← token nested false false with
    | .pipe => return .inl ((← one true) :: done)
    | t => do
      push t
      return .inr done.reverse
  let c : Command := if others.isEmpty then first else .pipeline (first :: others) false
  return if isNegated then .negated c else c

/-- Commands that depend on whether those before them succeed. -/
def conjunction (nested : Nested) (lists : Lists) : Reading Command := do
  let first ← pipeline nested lists false
  loop first fun c => do
    match ← token nested false false with
    | .both => return .inl (.both c (← pipeline nested lists true))
    | .either => return .inl (.either c (← pipeline nested lists true))
    | t => do
      push t
      return .inr c

/-- A command in the background. -/
def inBackground (line : Nat) : Command → Command
  | .pipeline cs _ => .pipeline cs true
  | .redirected line c rs => .background line c rs
  | c => .background line c []

/-- Whether a token ends a list inside a command. -/
def endsList : Token → Bool
  | .ending | .close | .endOfArm => true
  | .keyword k => [.do_, .done, .elif, .else_, .esac, .fi, .then_, .closing].contains k
  | _ => false

/-- A list of commands. -/
def list (nested : Nested) (lists : Lists) (e : Extent) : Reading (Option Command) := do
  let overLines := e != .line
  loop (none : Option Command) fun done => do
    let t ← token nested overLines true
    match t, overLines with
    | .newline, _ => return .inr (some (done.getD .nothing))
    | .ending, false => do
      push .ending
      return .inr done
    | .ending, true => do
      push .ending
      return .inr (some (done.getD .nothing))
    | t, _ => do
      push t
      if (e == .nestedOrEmpty || done.isSome) && overLines && endsList t then
        return .inr (some (done.getD .nothing))
      let line := (← get).line
      let c ← conjunction nested lists
      let after ← token nested false false
      let c := match after with
        | .background => inBackground line c
        | _ => c
      let all := match done with
        | some before => .sequence before c
        | none => c
      match after with
      | .newline | .ending => do
        push after
        return .inl (some all)
      | .background | .semicolon => return .inl (some all)
      | t => do
        if !overLines then unexpected t none
        push t
        return .inr (some all)

/-- A list with the token after it, which is the one that ended it. -/
def listAndEnd (lists : Lists) : Reading (Command × Token) := do
  let c ← required lists .nestedOrEmpty
  return (c, (← get).pushed.getD .ending)

/-- The commands inside words, by way of lists. -/
def nestedOf (lists : Lists) : Nested where
  parenthesized := do
    match ← listAndEnd lists with
    | (c, .close) => return c
    | (_, t) => unexpected t (some .close)
  whole := do
    match ← listAndEnd lists with
    | (c, .ending) => return c
    | (_, t) => unexpected t (some .ending)

/-- The reader of lists, for so many levels of nesting. -/
def lists : Nat → Lists
  | 0, _ => fail "Unreadable"
  | depth + 1, e => list (nestedOf (lists depth)) (lists depth) e

/-- The next complete line of commands, if the script goes on. -/
def line : Reading (Option Command) := do
  modify fun r => { r with pushed := none, awaited := [] }
  lists (← get).depth .line

/-- Whether a line was the last one. -/
def isAtEnd : Reading Bool := do
  match (← get).pushed with
  | some .ending => return true
  | _ => return false

end Reading

end BindingCoverage.Host.Shell
