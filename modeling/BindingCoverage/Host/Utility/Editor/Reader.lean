import BindingCoverage.Host.Format
import BindingCoverage.Host.Utility.Editor.Syntax

/-!
# Reading scripts of the stream editor

A script may come in several parts. What is wrong with a part is said with the number of characters
that were read of it.
-/

namespace BindingCoverage.Host.Utility.Editor

/-- What is left of a part of a script, and how much was read of it. -/
structure Source where
  rest : List Char
  position : Nat := 0

/-- A fault, and where it was found. -/
structure Fault where
  position : Nat
  text : String
  deriving DecidableEq, Repr

/-- An instruction whose target is still a name, or the start of a block that may be open. -/
structure Draft where
  condition : Condition
  deed : Deed
  label : Option String := none

/-- What was read so far. -/
structure Progress where
  source : Source
  drafts : Array Draft := #[]
  /-- The starts of the blocks that are open. -/
  blocks : List Nat := []
  labels : List (String × Nat) := []
  /-- A text that goes on in the next part: the text and the place of its instruction. -/
  isExtended : Bool
  isQuiet : Bool := false
  isFirst : Bool := true
  /-- Whether the last instruction waits for a text in the next part. -/
  awaitsText : Bool := false

abbrev Reading := StateT Progress (Except Fault)

namespace Reading

def fail {α : Type} (text : String) : Reading α := do
  throw ⟨(← get).source.position, text⟩

/-- The next character, which is read. -/
def take : Reading (Option Char) := do
  let p ← get
  match p.source.rest with
  | [] => return none
  | c :: rest => do
    set { p with source := ⟨rest, p.source.position + 1⟩ }
    return some c

/-- Puts a character back. -/
def unread (c : Option Char) : Reading Unit :=
  match c with
  | none => pure ()
  | some c => modify fun p =>
    { p with source := ⟨c :: p.source.rest, p.source.position - 1⟩ }

def peek : Reading (Option Char) := do return (← get).source.rest.head?

/-- Reads characters as long as they fulfil a condition. -/
def takeWhile (test : Char → Bool) : Reading (List Char) := do
  let p ← get
  let taken := p.source.rest.takeWhile test
  set { p with source := ⟨p.source.rest.drop taken.length, p.source.position + taken.length⟩ }
  return taken

/-- The next character that is not blank. -/
def takeFilled : Reading (Option Char) := do
  discard (takeWhile fun c => CharKind.isBlank c)
  take

def takeNumber : Reading Nat := do return valueIn 10 (← takeWhile Char.isDigit)

/-- Reads the end of an instruction. -/
def endInstruction : Reading Unit := do
  match ← takeFilled with
  | none | some '\n' | some ';' => return
  | some '\x7d' => unread (some '\x7d')
  | some '#' => unread (some '#')
  | some _ => fail "extra characters after command"

/-! ## Texts between marks -/

/-- The length of a set in brackets at the start of a text, after its opening bracket. -/
def setLength (s : List Char) : Nat :=
  let n := if s.head? = some '^' then 1 else 0
  let n := n + (if (s.drop n).head? = some ']' then 1 else 0)
  go s.length n (s.drop n)
where
  go : Nat → Nat → List Char → Nat
    | 0, n, _ | _, n, [] => n
    | fuel + 1, n, '[' :: k :: rest =>
      if k = ':' || k = '.' || k = '=' then
        let name := rest.takeWhile (· != k)
        match rest.drop name.length with
        | _ :: ']' :: after => go fuel (n + name.length + 4) after
        | _ => go fuel (n + 1) (k :: rest)
      else go fuel (n + 1) (k :: rest)
    | fuel + 1, n, c :: rest => if c = ']' then n + 1 else go fuel (n + 1) rest

/-- Reads up to a mark. A mark after a backslash is part of the text. Nothing if the mark is
missing. -/
def takeTo (mark : Char) (isRegex : Bool) : Nat → List Char → Reading (Option (List Char))
  | 0, _ => return none
  | fuel + 1, done => do
    match ← take with
    | none => return none
    | some '\n' => do
      if isRegex then
        unread (some '\n')
        return none
      else takeTo mark isRegex fuel ('\n' :: done)
    | some '\\' =>
      if mark = '\\' then return some done.reverse
      else
        match ← take with
        | none => return none
        | some c =>
          if c = mark && !(!isRegex && c = '&') then
            let kept := if isRegex && keepsMeaning c then ['\\'] else []
            takeTo mark isRegex fuel (c :: kept ++ done)
          else if c = 'n' && isRegex then takeTo mark isRegex fuel ('\n' :: done)
          else if c = '\n' then
            takeTo mark isRegex fuel (if isRegex then '\n' :: done else '\n' :: '\\' :: done)
          else takeTo mark isRegex fuel (c :: '\\' :: done)
    | some c =>
      if c = mark then return some done.reverse
      else if c = '[' && isRegex then do
        let rest := (← get).source.rest
        let length := setLength rest
        let inside := rest.take length
        if inside.contains '\n' || inside.getLast? ≠ some ']' then
          discard (takeWhile (· != '\n'))
          return none
        else
          modify fun p =>
            { p with source := ⟨p.source.rest.drop length, p.source.position + length⟩ }
          takeTo mark isRegex fuel (inside.reverse ++ c :: done)
      else takeTo mark isRegex fuel (c :: done)
where
  /-- Whether a mark with a backslash is still no ordinary character. -/
  keepsMeaning (c : Char) : Bool := "^$.*[]".toList.contains c

/-! ## Expressions -/

/-- A number of a character in some base, with so many digits at most. -/
def numbered (base most : Nat) (s : List Char) : Option (Char × List Char) :=
  let digits := (s.take most).takeWhile (isDigitIn base)
  if digits.isEmpty then none
  else some (Char.ofNat (valueIn base digits % 256), s.drop digits.length)

/-- The character that a letter after a backslash and what follows it stand for. -/
def produced? : List Char → Option (Char × List Char)
  | 'a' :: rest => some ('\x07', rest)
  | 'f' :: rest => some ('\x0c', rest)
  | 'n' :: rest => some ('\n', rest)
  | 'r' :: rest => some ('\r', rest)
  | 't' :: rest => some ('\t', rest)
  | 'v' :: rest => some ('\x0b', rest)
  | 'c' :: c :: rest => some (Char.ofNat (c.toUpper.toNat ^^^ 64), rest)
  | 'd' :: rest => numbered 10 3 rest
  | 'o' :: rest => numbered 8 3 rest
  | 'x' :: rest => numbered 16 2 rest
  | _ => none

/-- An expression in which characters that are written by letters or numbers stand for
themselves. -/
def withCharacters : Nat → List Char → List Char
  | 0, s => s
  | _, [] => []
  | fuel + 1, '\\' :: rest =>
    match produced? rest with
    | some (c, after) =>
      let plain := if "^$.*[]\\/+?(){}|\n".toList.contains c && c ≠ '\n' then ['\\', c] else [c]
      plain ++ withCharacters fuel after
    | none =>
      match rest with
      | c :: after => '\\' :: c :: withCharacters fuel after
      | [] => ['\\']
  | fuel + 1, c :: rest => c :: withCharacters fuel rest

def searchOf (text : List Char) (foldsCase hasLines : Bool) : Reading Search := do
  if text.isEmpty then return ⟨none, foldsCase, hasLines⟩
  let style : Regex.Style := { isExtended := (← get).isExtended, isStrict := true }
  match Regex.ofText style (withCharacters text.length text) with
  | .ok r => return ⟨some r, foldsCase, hasLines⟩
  | .error e => fail e.message

/-! ## Addresses -/

/-- The letters after the expression of an address: whether case is folded, and whether lines
count. -/
def addressFlags : Nat → Bool × Bool → Reading (Bool × Bool)
  | 0, flags => return flags
  | fuel + 1, (folds, lines) => do
    match ← takeFilled with
    | some 'I' => addressFlags fuel (true, lines)
    | some 'M' => addressFlags fuel (folds, true)
    | c => do
      unread c
      return (folds, lines)

/-- An address that begins with a character, if one does. -/
def address? (c : Option Char) : Reading (Option RangeEnd × Option (Nat × Nat)) := do
  match c with
  | some '/' | some '\\' => do
    let mark ← if c = some '\\' then take else pure (some '/')
    match mark with
    | none => fail "unterminated address regex"
    | some mark =>
      match ← takeTo mark true ((← get).source.rest.length + 1) [] with
      | none => fail "unterminated address regex"
      | some text => do
        let (folds, lines) ← addressFlags (← get).source.rest.length (false, false)
        return (some (.search (← searchOf text folds lines)), none)
  | some '$' => return (some .last, none)
  | some '+' => do
    if ((← peek).any Char.isDigit) then return (some (.after (← takeNumber)), none)
    fail "expected number"
  | some '~' => return (some (.multiple (← takeNumber)), none)
  | some d => do
    if d.isDigit then
      unread (some d)
      let n ← takeNumber
      match ← takeFilled with
      | some '~' => do
        discard (takeWhile CharKind.isBlank)
        return (none, some (n, ← takeNumber))
      | c => do
        unread c
        return (some (.line n), none)
    else return (none, none)
  | none => return (none, none)

/-- A condition that begins with a character, and the character after it. -/
def condition (c : Option Char) : Reading (Condition × Option Char) := do
  let start : Option Address ← do
    match ← address? c with
    | (some (.after _), _) | (some (.multiple _), _) =>
      fail "invalid usage of +N or ~N as first address"
    | (some (.line n), _) => pure (some (.line n))
    | (some .last, _) => pure (some .last)
    | (some (.search s), _) => pure (some (.search s))
    | (none, some (n, step)) => pure (some (if step = 0 then .line n else .step n step))
    | (none, none) => pure none
  match start with
  | none => withBang {} c
  | some first => do
    let c ← takeFilled
    if c = some ',' then
      let stop ← do
        match ← address? (← takeFilled) with
        | (some stop, _) => pure stop
        | (none, some (n, _)) => pure (.line n)
        | (none, none) => fail "unexpected \x60,'"
      let next ← takeFilled
      let isSearch := match stop with
        | .search _ => true
        | _ => false
      if first = .line 0 && !isSearch then fail "invalid usage of line address 0"
      withBang { first := some first, last := some stop } next
    else
      if first = .line 0 then fail "invalid usage of line address 0"
      withBang { first := some first } c
where
  /-- The condition turned round if an exclamation mark says so. -/
  withBang (k : Condition) (c : Option Char) : Reading (Condition × Option Char) := do
    if c = some '!' then
      let next ← takeFilled
      if next = some '!' then fail "multiple \x60!'s"
      return ({ k with isNegated := true }, next)
    return (k, c)

/-! ## Arguments of instructions -/

/-- The name of a file up to the end of the line. -/
def takePath : Reading String := do
  discard (takeWhile CharKind.isBlank)
  let path ← takeWhile (· != '\n')
  if path.isEmpty then fail "missing filename in r/R/w/W commands"
  return String.ofList path

def takeLabel : Reading String := do
  discard (takeWhile CharKind.isBlank)
  return String.ofList (← takeWhile fun c => !isSpace c && c ≠ ';' && c ≠ '\x7d')

/-- The lines of a text up to one that does not end in a backslash. -/
def takeText : Nat → List Char → Reading (List Char)
  | 0, done => return done.reverse
  | fuel + 1, done => do
    match ← take with
    | none => return done.reverse
    | some '\n' => return done.reverse
    | some '\\' => do
      let rest := (← get).source.rest
      match produced? rest with
      | some (c, after) => do
        if rest.head? = some 'n' && rest.length = 0 then return done.reverse
        modify fun p =>
          { p with source := ⟨after, p.source.position + (rest.length - after.length)⟩ }
        takeText fuel (c :: done)
      | none =>
        match ← take with
        | none => return done.reverse
        | some c => takeText fuel (c :: done)
    | some c => takeText fuel (c :: done)

/-- The text of an instruction that has one, with its line end. -/
def instructionText : Reading (List Char) := do
  match ← takeFilled with
  | none => fail "expected \\ after \x60a', \x60c' or \x60i'"
  | some '\\' => do
    match ← peek with
    | none => do
      modify fun p => { p with awaitsText := true }
      return []
    | some '\n' => do
      discard take
      return (← takeText ((← get).source.rest.length + 1) []) ++ ['\n']
    | some _ => do
      let blanks ← takeWhile CharKind.isBlank
      if (← peek) = some '\n' then
        discard take
        return (← takeText ((← get).source.rest.length + 1) []) ++ ['\n']
      else return blanks ++ (← takeText ((← get).source.rest.length + 1) []) ++ ['\n']
  | some c => do
    unread (some c)
    return (← takeText ((← get).source.rest.length + 1) []) ++ ['\n']

/-! ## Substitutions -/

/-- The pieces of a replacement. -/
def pieces (plain : List Char) : Nat → List Char → List Piece
  | 0, _ | _, [] => flush plain
  | fuel + 1, '&' :: rest => flush plain ++ .group 0 :: pieces [] fuel rest
  | fuel + 1, '\\' :: rest =>
    match rest with
    | [] => pieces ('\\' :: plain) fuel []
    | c :: after =>
      let casing? : Option Casing :=
        match c with
        | 'U' => some .upper
        | 'L' => some .lower
        | 'E' => some .asIs
        | 'u' => some .nextUpper
        | 'l' => some .nextLower
        | _ => none
      match casing? with
      | some casing => flush plain ++ .casing casing :: pieces [] fuel after
      | none =>
        if c.isDigit then flush plain ++ .group (c.toNat - '0'.toNat) :: pieces [] fuel after
        else
          match produced? rest with
          | some (c, after) => pieces (c :: plain) fuel after
          | none => pieces (c :: plain) fuel after
  | fuel + 1, c :: rest => pieces (c :: plain) fuel rest
where
  flush (plain : List Char) : List Piece :=
    if plain.isEmpty then [] else [.text plain.reverse]

/-- What the letters after a substitution say. -/
structure Flags where
  number : Option Nat := none
  isGlobal : Bool := false
  prints : Bool := false
  foldsCase : Bool := false
  hasLines : Bool := false
  evaluates : Bool := false
  file : Option String := none

def flags : Nat → Flags → Reading Flags
  | 0, f => return f
  | fuel + 1, f => do
    match ← take with
    | none | some '\n' | some ';' => return f
    | some '\x7d' => do
      unread (some '\x7d')
      return f
    | some '#' => do
      unread (some '#')
      return f
    | some 'i' | some 'I' => flags fuel { f with foldsCase := true }
    | some 'm' | some 'M' => flags fuel { f with hasLines := true }
    | some 'e' => flags fuel { f with evaluates := true }
    | some 'g' => do
      if f.isGlobal then fail "multiple \x60g' options to \x60s' command"
      flags fuel { f with isGlobal := true }
    | some 'p' => do
      if f.prints then fail "multiple \x60p' options to \x60s' command"
      flags fuel { f with prints := true }
    | some 'w' => return { f with file := some (← takePath) }
    | some c => do
      if c.isDigit then
        if f.number.isSome then fail "multiple number options to \x60s' command"
        unread (some c)
        let n ← takeNumber
        if n = 0 then fail "number option to \x60s' command may not be zero"
        flags fuel { f with number := some n }
      else if CharKind.isBlank c then flags fuel f
      else fail "unknown option to \x60s'"

def substitution : Reading Deed := do
  let fuel := (← get).source.rest.length + 1
  let unterminated := "unterminated \x60s' command"
  match ← take with
  | none => fail unterminated
  | some mark =>
    match ← takeTo mark true fuel [] with
    | none => fail unterminated
    | some pattern =>
      match ← takeTo mark false fuel [] with
      | none => fail unterminated
      | some replacement => do
        let f ← flags fuel {}
        let search ← searchOf pattern f.foldsCase f.hasLines
        let parts := pieces [] replacement.length replacement
        let groups := (search.expression.map Regex.groupCount).getD 9
        for part in parts do
          match part with
          | .group n =>
            if groups < n then fail s!"invalid reference \\{n} on \x60s' command's RHS"
          | _ => pure ()
        return .substitute {
          search
          replacement := parts
          number := f.number.getD 1
          isGlobal := f.isGlobal
          prints := f.prints
          evaluates := f.evaluates
          file := f.file }

/-- The characters of one side of a translation. -/
def translated : Nat → List Char → List Char
  | 0, _ | _, [] => []
  | fuel + 1, '\\' :: '\\' :: rest => '\\' :: translated fuel rest
  | fuel + 1, '\\' :: rest =>
    match produced? rest with
    | some (c, rest) => c :: translated fuel rest
    | none => '\\' :: translated fuel rest
  | fuel + 1, c :: rest => c :: translated fuel rest

def translation : Reading Deed := do
  let fuel := (← get).source.rest.length + 1
  let unterminated := "unterminated \x60y' command"
  match ← take with
  | none => fail unterminated
  | some mark =>
    match ← takeTo mark false fuel [] with
    | none => fail unterminated
    | some first =>
      match ← takeTo mark false fuel [] with
      | none => fail unterminated
      | some second => do
        let first := translated first.length first
        let second := translated second.length second
        if first.length ≠ second.length then
          fail "strings for \x60y' command are different lengths"
        endInstruction
        return .translate (first.zip second)

/-! ## Instructions -/

def add (condition : Condition) (deed : Deed) (label : Option String) : Reading Unit :=
  modify fun p => { p with drafts := p.drafts.push ⟨condition, deed, label⟩ }

/-- An instruction without an argument. -/
def plain? (c : Char) : Option Deed :=
  match c with
  | '=' => some .lineNumber
  | 'd' => some .delete
  | 'D' => some .deleteFirst
  | 'F' => some .fileName
  | 'g' => some .getHeld
  | 'G' => some .getHeldToo
  | 'h' => some .hold
  | 'H' => some .holdToo
  | 'n' => some .next
  | 'N' => some .nextToo
  | 'p' => some .print
  | 'P' => some .printFirst
  | 'x' => some .exchange
  | 'z' => some .clear
  | _ => none

/-- A number before the end of an instruction, if there is one. -/
def optionalNumber : Reading (Option Nat) := do
  discard (takeWhile CharKind.isBlank)
  let n ← if (← peek).any Char.isDigit then pure (some (← takeNumber)) else pure none
  endInstruction
  return n

/-- An instruction with its condition, after its character. -/
def instruction (k : Condition) (c : Char) : Reading Unit := do
  match c with
  | '\x7b' => do
    modify fun p => { p with blocks := p.drafts.size :: p.blocks }
    add k (.block 0) none
  | '\x7d' => do
    match (← get).blocks with
    | [] => fail "unexpected \x60\x7d'"
    | start :: rest => do
      if k.first.isSome then fail "\x7d doesn't want any addresses"
      modify fun p =>
        { p with
          blocks := rest
          drafts := p.drafts.modify start fun d => { d with deed := .block p.drafts.size } }
      endInstruction
  | ':' => do
    if k.first.isSome then fail ": doesn't want any addresses"
    discard (takeWhile CharKind.isBlank)
    let label ← takeWhile fun c => !isSpace c && c ≠ ';'
    if label.isEmpty then fail "\":\" lacks a label"
    modify fun p => { p with labels := (String.ofList label, p.drafts.size) :: p.labels }
  | 'a' => do add k (.append (← instructionText)) none
  | 'i' => do add k (.insert (← instructionText)) none
  | 'c' => do add k (.change (← instructionText)) none
  | 'b' => do branch (.branch 0)
  | 't' => do branch (.branchIfDone 0)
  | 'T' => do branch (.branchUnlessDone 0)
  | 'e' => do
    discard (takeWhile CharKind.isBlank)
    add k (.execute (← takeWhile (· != '\n'))) none
  | 'l' | 'L' => do add k (.show_ (← optionalNumber)) none
  | 'q' => do
    if k.last.isSome then fail "command only uses one address"
    add k (.quit ((← optionalNumber).getD 0)) none
  | 'Q' => do
    if k.last.isSome then fail "command only uses one address"
    add k (.quitSilently ((← optionalNumber).getD 0)) none
  | 'r' => do add k (.readFile (← takePath)) none
  | 'R' => do add k (.readLine (← takePath)) none
  | 'w' => do add k (.writeFile (← takePath)) none
  | 'W' => do add k (.writeFirst (← takePath)) none
  | 's' => do add k (← substitution) none
  | 'y' => do add k (← translation) none
  | 'v' => do
    discard takeLabel
    endInstruction
  | c =>
    match plain? c with
    | some deed => do
      add k deed none
      endInstruction
    | none => fail s!"unknown command: \x60{c}'"
where
  /-- An instruction that may name the place where it leads. -/
  branch (deed : Deed) : Reading Unit := do
    let label ← takeLabel
    add k deed (if label.isEmpty then none else some label)
    endInstruction

/-- The instructions of a part. -/
def instructions : Nat → Reading Unit
  | 0 => return
  | fuel + 1 => do
    discard (takeWhile fun c => isSpace c || c = ';')
    match ← take with
    | none => return
    | some '#' => do
      let isStart := (← get).isFirst && (← get).source.position = 1
      let comment ← takeWhile (· != '\n')
      if isStart && comment = ['n'] then modify fun p => { p with isQuiet := true }
      instructions fuel
    | some c => do
      let (k, c) ← condition (some c)
      match c with
      | none => fail "missing command"
      | some '#' => do
        if k.first.isSome then fail "comments don't accept any addresses"
        discard (takeWhile (· != '\n'))
        instructions fuel
      | some c => do
        instruction k c
        instructions fuel

/-- Goes on with a text that was begun in the part before. -/
def continuedText : Reading Unit := do
  if (← get).awaitsText then
    modify fun p => { p with awaitsText := false }
    let text := (← takeText ((← get).source.rest.length + 1) []) ++ ['\n']
    modify fun p => { p with
      drafts := p.drafts.modify (p.drafts.size - 1) fun d =>
        { d with deed := match d.deed with
            | .append _ => .append text
            | .insert _ => .insert text
            | .change _ => .change text
            | other => other } }

/-- One more part. -/
def part (text : String) : Reading Unit := do
  modify fun p => { p with source := ⟨text.toList, 0⟩ }
  continuedText
  instructions (text.length + 1)
  modify fun p => { p with isFirst := false }

end Reading

/-- A draft with its target put in. -/
def Draft.finished (labels : List (String × Nat)) (size : Nat) (d : Draft) :
    Except String Instruction := do
  let target ←
    match d.label with
    | none => pure size
    | some label =>
      match labels.find? (·.1 == label) with
      | some (_, place) => pure place
      | none => throw s!"can't find label for jump to \x60{label}'"
  return ⟨d.condition, match d.deed with
    | .branch _ => .branch target
    | .branchIfDone _ => .branchIfDone target
    | .branchUnlessDone _ => .branchUnlessDone target
    | deed => deed⟩

/-- The script that a reader has read. -/
def Progress.script (p : Progress) : Except String Script := do
  let instructions ← p.drafts.toList.mapM fun d => d.finished p.labels p.drafts.size
  return ⟨instructions.toArray, p.isQuiet⟩

end BindingCoverage.Host.Utility.Editor
