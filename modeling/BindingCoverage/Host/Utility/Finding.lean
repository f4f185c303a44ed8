import BindingCoverage.Host.Shell.Pattern
import BindingCoverage.Host.Utility.Processes
import BindingCoverage.Host.Utility.Tree

/-!
# Finding files

`find` walks through directories and asks an expression about each file on its way. Parts of an
expression are looked at only as long as they matter, and some of them do something.
-/

namespace BindingCoverage.Host.Utility.Finding

inductive Expression where
  | always
  | never
  | name (pattern : String) (foldsCase : Bool)
  | path (pattern : String) (foldsCase : Bool)
  | kind (letters : List Char)
  | empty
  | executable
  | size (order : Ordering) (count unit : Nat)
  | print (ending : String)
  | format (text : String)
  | run (command : List String)
  /-- All files are arguments of one command at the end. -/
  | gather (command : List String)
  | delete
  | prune
  | quit
  | negated (e : Expression)
  | both (first second : Expression)
  | either (first second : Expression)
  /-- The second one counts, whatever the first one says. -/
  | after (first second : Expression)
  deriving Repr

namespace Expression

/-- Whether an expression does something by itself. -/
def acts : Expression → Bool
  | .print _ | .format _ | .run _ | .gather _ | .delete => true
  | .negated e => e.acts
  | .both a b | .either a b | .after a b => a.acts || b.acts
  | _ => false

/-- Whether the files of a directory come before it. -/
def isDeepFirst : Expression → Bool
  | .delete => true
  | .negated e => e.isDeepFirst
  | .both a b | .either a b | .after a b => a.isDeepFirst || b.isDeepFirst
  | _ => false

end Expression

/-! ## Reading -/

structure Bounds where
  least : Nat := 0
  most : Option Nat := none
  isDeepFirst : Bool := false

abbrev Reading := StateT (List String × Bounds) (Except String)

def peek : Reading (Option String) := do return (← get).1.head?

def skip : Reading Unit := modify fun (words, b) => (words.drop 1, b)

/-- The argument of a test. -/
def argument (test : String) : Reading String := do
  match (← get).1 with
  | [] => throw s!"missing argument to \x60{test}'"
  | a :: rest => do
    modify fun (_, b) => (rest, b)
    return a

def depth (test : String) : Reading Nat := do
  let text ← argument test
  match natural? text with
  | some n => return n
  | none => throw s!"Expected a positive decimal integer argument to {test}, but got '{text}'"

/-- A command up to its end, and whether it is carried out once for all files. -/
def command (test : String) : Reading (List String × Bool) := do
  let (words, b) ← get
  let rec go : List String → List String → Option (List String × Bool × List String)
    | _, [] => none
    | done, ";" :: rest => some (done.reverse, false, rest)
    | "\x7b\x7d" :: done, "+" :: rest => some (done.reverse, true, rest)
    | done, w :: rest => go (w :: done) rest
  match go [] words with
  | some (command, isGathered, rest) => do
    set (rest, b)
    return (command, isGathered)
  | none => throw s!"missing argument to \x60{test}'"

def size (text : String) : Option (Ordering × Nat × Nat) := do
  let (order, cs) : Ordering × List Char :=
    match text.toList with
    | '+' :: rest => (.gt, rest)
    | '-' :: rest => (.lt, rest)
    | cs => (.eq, cs)
  let digits := cs.takeWhile Char.isDigit
  if digits.isEmpty then none
  let unit ←
    match cs.drop digits.length with
    | [] | ['b'] => some 512
    | ['c'] => some 1
    | ['w'] => some 2
    | ['k'] => some 1024
    | ['M'] => some 1048576
    | _ => none
  return (order, valueIn 10 digits, unit)

/-- A test or an action with its arguments. -/
def primary (word : String) : Reading Expression := do
  match word with
  | "-true" | "-mount" | "-xdev" => return .always
  | "-false" => return .never
  | "-name" => return .name (← argument word) false
  | "-iname" => return .name (← argument word) true
  | "-path" | "-wholename" => return .path (← argument word) false
  | "-ipath" => return .path (← argument word) true
  | "-empty" => return .empty
  | "-executable" => return .executable
  | "-print" => return .print "\n"
  | "-print0" => return .print "\x00"
  | "-printf" => return .format (← argument word)
  | "-delete" => return .delete
  | "-prune" => return .prune
  | "-quit" => return .quit
  | "-depth" | "-d" => do
    modify fun (words, b) => (words, { b with isDeepFirst := true })
    return .always
  | "-maxdepth" => do
    let n ← depth word
    modify fun (words, b) => (words, { b with most := some n })
    return .always
  | "-mindepth" => do
    let n ← depth word
    modify fun (words, b) => (words, { b with least := n })
    return .always
  | "-type" => do
    let text ← argument word
    let letters := (splitAt ',' [] text.toList).flatten
    match letters.find? (!"bcdpfls".toList.contains ·) with
    | some c => throw s!"Unknown argument to -type: {c}"
    | none => return .kind letters
  | "-size" => do
    let text ← argument word
    match size text with
    | some (order, count, unit) => return .size order count unit
    | none => throw s!"Invalid argument \x60{text}' to -size"
  | "-exec" | "-execdir" => do
    let (words, isGathered) ← command word
    if words.isEmpty && !isGathered then throw s!"missing argument to \x60{word}'"
    return if isGathered then .gather words else .run words
  | _ => throw s!"unknown predicate \x60{word}'"

mutual

def alternatives : Nat → Reading Expression
  | 0 => throw "expression too complicated"
  | fuel + 1 => do
    let first ← conjunction fuel
    match ← peek with
    | some "-o" | some "-or" => do
      skip
      return .either first (← alternatives fuel)
    | some "," => do
      skip
      return .after first (← alternatives fuel)
    | _ => return first

def conjunction : Nat → Reading Expression
  | 0 => throw "expression too complicated"
  | fuel + 1 => do
    let first ← negation fuel
    match ← peek with
    | none | some "-o" | some "-or" | some "," | some ")" => return first
    | some "-a" | some "-and" => do
      skip
      return .both first (← conjunction fuel)
    | some _ => return .both first (← conjunction fuel)

def negation : Nat → Reading Expression
  | 0 => throw "expression too complicated"
  | fuel + 1 => do
    match ← peek with
    | none => throw "invalid expression; you have used a binary operator with nothing before it."
    | some "!" | some "-not" => do
      skip
      return .negated (← negation fuel)
    | some "(" => do
      skip
      let e ← alternatives fuel
      match ← peek with
      | some ")" => do
        skip
        return e
      | _ =>
        throw "invalid expression; I was expecting to find a ')' somewhere but did not see one."
    | some word => do
      skip
      primary word

end

/-- The whole expression. -/
def expression : Reading Expression := do
  let (words, _) ← get
  if words.isEmpty then return .print "\n"
  let e ← alternatives (4 * words.length + 4)
  match ← peek with
  | some ")" => throw "invalid expression; you have too many ')'"
  | _ => return if e.acts then e else .both e (.print "\n")

/-! ## Walking -/

/-- A file on the way. -/
structure Visit where
  text : String
  path : Path
  node : Node
  depth : Nat
  /-- The operand that led to it. -/
  start : String

structure State where
  status : Nat := 0
  isOver : Bool := false
  isPruned : Bool := false
  gathered : List String := []
  command : List String := []

def kindOf : Node → Char
  | .directory => 'd'
  | .file _ _ | .program _ => 'f'
  | _ => 'c'

def fitsPattern (pattern text : String) (foldsCase : Bool) : Bool :=
  let fold (cs : List Char) : List Char := if foldsCase then cs.map Char.toLower else cs
  Shell.Pattern.isMatch ((fold pattern.toList).map (⟨·, false⟩)) (fold text.toList)

/-- The text of a format for a file. -/
def formatted (v : Visit) : Nat → List Char → String
  | 0, _ | _, [] => ""
  | fuel + 1, '%' :: c :: rest =>
    let field :=
      match c with
      | 'p' => v.text
      | 'f' => lastName v.text
      | 'h' => aboveLast v.text
      | 'd' => toString v.depth
      | 'P' =>
        let below := String.ofList (v.text.toList.drop v.start.length)
        String.ofList (below.toList.dropWhile (· == '/'))
      | 'H' => v.start
      | 'y' => String.singleton (kindOf v.node)
      | 's' => statField v.text v.node 's'
      | 'm' => statField v.text v.node 'a'
      | 'u' | 'g' => "root"
      | '%' => "%"
      | c => String.ofList ['%', c]
    field ++ formatted v fuel rest
  | fuel + 1, '\\' :: rest =>
    let (c, rest) := Format.escape false rest
    String.singleton c ++ formatted v fuel rest
  | fuel + 1, c :: rest => String.singleton c ++ formatted v fuel rest

/-- Carries out a command and waits for it. -/
def runCommand (c : Call) : List String → Program Bool
  | [] => return true
  | name :: arguments => do
    let child ← Program.fork do
      let e ← execute name arguments c.environment
      c.complain s!"'{name}': {errorText e}"
      return startFailure e
    return (← waitFor child).isSuccess

/-- What an expression says of a file. -/
def holds (c : Call) (v : Visit) : Expression → StateT State Program Bool
  | .always => return true
  | .never => return false
  | .name pattern foldsCase => return fitsPattern pattern (lastName v.text) foldsCase
  | .path pattern foldsCase => return fitsPattern pattern v.text foldsCase
  | .kind letters => return letters.contains (kindOf v.node)
  | .empty => do
    match v.node with
    | .file octets _ => return octets.isEmpty
    | .directory => do return ((← StateT.lift currentFiles).namesIn v.path).isEmpty
    | _ => return false
  | .executable => do
    match v.node with
    | .file _ isExecutable => return isExecutable
    | .directory | .program _ => return true
    | _ => return false
  | .size order count unit => do
    let octets := match v.node with
      | .file octets _ => octets.length
      | _ => 4096
    return compare ((octets + unit - 1) / unit) count == order
  | .print ending => do
    StateT.lift (c.print (v.text ++ ending))
    return true
  | .format text => do
    StateT.lift (c.print (formatted v (text.length + 1) text.toList))
    return true
  | .run words => do
    let filled := words.map fun w =>
      String.ofList (replacedIn "\x7b\x7d".toList v.text.toList (w.length + 1) w.toList)
    StateT.lift (runCommand c filled)
  | .gather words => do
    modify fun s => { s with gathered := v.text :: s.gathered, command := words }
    return true
  | .delete => do
    if v.text = "." then return true
    let files ← StateT.lift currentFiles
    if v.node = .directory && !(files.namesIn v.path).isEmpty then
      StateT.lift (c.complain s!"cannot delete '{v.text}': {errorText .notEmpty}")
      modify fun s => { s with status := 1 }
      return false
    StateT.lift (Program.ask (.change v.path none))
    return true
  | .prune => do
    modify fun s => { s with isPruned := true }
    return true
  | .quit => do
    modify fun s => { s with isOver := true }
    return true
  | .negated e => do return !(← holds c v e)
  | .both a b => do
    if ← holds c v a then if (← get).isOver then return true else holds c v b
    else return false
  | .either a b => do if ← holds c v a then return true else holds c v b
  | .after a b => do
    discard (holds c v a)
    holds c v b

/-- Asks about a file and those below it. -/
def visit (c : Call) (e : Expression) (b : Bounds) : Nat → Visit → StateT State Program Unit
  | 0, _ => return
  | fuel + 1, v => do
    if (← get).isOver then return
    let deepFirst := b.isDeepFirst || e.isDeepFirst
    let here : StateT State Program Unit := do
      modify fun s => { s with isPruned := false }
      if b.least ≤ v.depth && !(← get).isOver then discard (holds c v e)
    let below : StateT State Program Unit := do
      if v.node = .directory && b.most.all (v.depth < ·) then
        let files ← StateT.lift currentFiles
        for name in sortedNames files v.path do
          let path := v.path ++ [Octets.text name]
          match files.get? path with
          | some node => visit c e b fuel ⟨within v.text name, path, node, v.depth + 1, v.start⟩
          | none => pure ()
    if deepFirst then
      below
      here
    else
      here
      if !(← get).isPruned then below

/-- The operands before the expression, and its words. -/
def starts : List String → List String × List String
  | [] => ([], [])
  | a :: rest =>
    if a.startsWith "-" || a = "(" || a = "!" then ([], a :: rest)
    else
      let (more, words) := starts rest
      (a :: more, words)

end Finding

open Finding in
def find : Routine := fun c => do
  let (operands, words) := starts c.arguments
  match expression.run (words, {}) with
  | .error text => do
    c.complain text
    return 1
  | .ok (e, _, b) => do
    let mut state : State := {}
    for text in if operands.isEmpty then ["."] else operands do
      match lookUp (← currentFiles) text with
      | .error e => do
        c.complain s!"'{text}': {errorText e}"
        state := { state with status := 1 }
      | .ok (path, node) => do
        let ((), next) ← (visit c e b 4096 ⟨text, path, node, 0, text⟩).run state
        state := next
    if !state.gathered.isEmpty then
      if !(← runCommand c (state.command ++ state.gathered.reverse)) then
        state := { state with status := 1 }
    return state.status

end BindingCoverage.Host.Utility
