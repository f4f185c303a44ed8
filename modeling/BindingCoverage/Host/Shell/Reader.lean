import BindingCoverage.Host.Shell.Syntax

/-!
# Reading a script

The state of a reader of commands: what is left of the script, the number of the line, and the
here-documents that are still to come. A backslash before the end of a line joins two lines, and it
is as if neither were there.
-/

namespace BindingCoverage.Host.Shell

inductive Keyword where
  | bang
  | case_
  | do_
  | done
  | elif
  | else_
  | esac
  | fi
  | for_
  | if_
  | in_
  | then_
  | until_
  | while_
  | opening
  | closing
  deriving DecidableEq, Repr

def Keyword.text : Keyword → String
  | .bang => "!"
  | .case_ => "case"
  | .do_ => "do"
  | .done => "done"
  | .elif => "elif"
  | .else_ => "else"
  | .esac => "esac"
  | .fi => "fi"
  | .for_ => "for"
  | .if_ => "if"
  | .in_ => "in"
  | .then_ => "then"
  | .until_ => "until"
  | .while_ => "while"
  | .opening => "\x7b"
  | .closing => "\x7d"

def Keyword.all : List Keyword := [
  .bang, .case_, .do_, .done, .elif, .else_, .esac, .fi, .for_, .if_, .in_, .then_, .until_,
  .while_, .opening, .closing]

/-- What an operator of redirection says before its word. -/
inductive Direction where
  | file (access : Access)
  | copy
  /-- A here-document, perhaps without the tabs at the starts of its lines. -/
  | document (withoutTabs : Bool)
  deriving DecidableEq, Repr

inductive Token where
  | ending
  | newline
  | semicolon
  | background
  | both
  | either
  | pipe
  | open_
  | close
  | endOfArm
  | redirection (descriptor : Nat) (direction : Direction)
  /-- A word, and whether any part of it is quoted. -/
  | word (word : Word) (quoted : Bool)
  | keyword (k : Keyword)

/-- How a token is shown in a message. -/
def Token.text : Token → String
  | .ending => "end of file"
  | .newline => "newline"
  | .semicolon => "\";\""
  | .background => "\"&\""
  | .both => "\"&&\""
  | .either => "\"||\""
  | .pipe => "\"|\""
  | .open_ => "\"(\""
  | .close => "\")\""
  | .endOfArm => "\";;\""
  | .redirection _ _ => "redirection"
  | .word _ _ => "word"
  | .keyword k => s!"\"{k.text}\""

/-- Why a script cannot be read, and on which line. -/
structure Fault where
  line : Nat
  text : String
  deriving DecidableEq, Repr

/-- A here-document that has been asked for. -/
structure Awaited where
  number : Nat
  delimiter : String
  /-- Whether it is taken as it stands. -/
  isLiteral : Bool
  withoutTabs : Bool
  deriving DecidableEq, Repr

/-- The text of an alias that was put in the place of its name. -/
structure Replacement where
  name : String
  /-- How much is left of the script where the text ends. -/
  left : Nat
  /-- Whether the word after the text may be an alias too. -/
  goesOn : Bool
  deriving DecidableEq, Repr

structure Reader where
  rest : List Char
  line : Nat := 1
  /-- A token that was looked at and is still to be taken. -/
  pushed : Option Token := none
  /-- The here-documents whose text comes after the line. -/
  awaited : List Awaited := []
  /-- The here-documents that were read. -/
  documents : List (Nat × Word) := []
  nextDocument : Nat := 0
  /-- The names that stand for other texts. -/
  aliases : List (String × String) := []
  /-- The aliases whose texts have been begun. -/
  replaced : List Replacement := []
  /-- Whether the next word may be an alias wherever it stands. -/
  expandsNext : Bool := false

/-- More than the number of levels in which the commands of a script can be nested: each word may
become as long as all aliases are together. -/
def Reader.depth (r : Reader) : Nat :=
  (r.rest.length + 3) * (r.aliases.foldl (fun n (_, text) => n + text.length) 1)

abbrev Reading := StateT Reader (Except Fault)

namespace Reading

def fail {α : Type} (text : String) : Reading α := do throw ⟨(← get).line, text⟩

/-- Repeats a step, as often as `fuel` says, until it gives a result. -/
def repeated {σ α : Type} (step : σ → Reading (σ ⊕ α)) : Nat → σ → Reading α
  | 0, _ => fail "Unreadable"
  | fuel + 1, s => do
    match ← step s with
    | .inl s => repeated step fuel s
    | .inr a => return a

/-- More steps than any script takes to read. -/
def unbounded : Nat := 1000000000000

/-- Repeats a step until it gives a result. A step that takes nothing from the script, and puts no
alias in its place, does not repeat. -/
def loop {σ α : Type} (start : σ) (step : σ → Reading (σ ⊕ α)) : Reading α :=
  repeated step unbounded start

/-- What is left, after the line breaks that do not count. -/
def joined (s : List Char) (line : Nat) : List Char × Nat :=
  match s with
  | '\\' :: '\n' :: rest => joined rest (line + 1)
  | s => (s, line)

/-- The next character, which is not taken. -/
def peek? : Reading (Option Char) := do
  let r ← get
  let (rest, line) := joined r.rest r.line
  set { r with rest, line }
  return rest.head?

def drop (count : Nat) : Reading Unit := modify fun r => { r with rest := r.rest.drop count }

/-- Takes the next character if it is the given one. -/
def take? (c : Char) : Reading Bool := do
  if (← peek?) = some c then
    drop 1
    return true
  else return false

/-- Takes the characters of a kind that come next. -/
def takeWhile (test : Char → Bool) : Reading (List Char) := do
  let taken := (← get).rest.takeWhile test
  drop taken.length
  return taken

def nextLine : Reading Unit := modify fun r => { r with line := r.line + 1 }

/-- Takes the next character with its effect on the number of the line. -/
def takeCounted (c : Char) : Reading Unit := do
  drop 1
  if c = '\n' then nextLine

/-! ## Aliases -/

/-- Puts the text of an alias in the place of its name, which was just taken, unless this happens
inside that text. -/
def expand (name : String) : Reading Bool := do
  let r ← get
  match r.aliases.find? (·.1 == name) with
  | none => return false
  | some (_, text) =>
    let left := r.rest.length
    if r.replaced.any fun x => x.name == name && x.left ≤ left then return false
    let goesOn := text.endsWith " " || text.endsWith "\t"
    set { r with
      rest := text.toList ++ r.rest
      replaced := ⟨name, left, goesOn⟩ :: r.replaced.filter (·.left ≤ left) }
    return true

/-- Takes what stands before a word. If the text of an alias ends there, the word may be an
alias. -/
def crossing (action : Reading Unit) : Reading Unit := do
  let before ← get
  action
  if !before.replaced.isEmpty then
    let start := before.rest.length
    modify fun r =>
      let here := r.rest.length
      { r with
        expandsNext := before.replaced.any fun x => x.goesOn && x.left < start && here ≤ x.left }

end Reading

end BindingCoverage.Host.Shell
