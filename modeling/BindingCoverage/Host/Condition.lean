import BindingCoverage.Host.Files
import BindingCoverage.Host.Number
import BindingCoverage.Text.Octets

/-!
# Conditions

What `test` says of its arguments. An argument that could be an operator is one only if there are
operands for it, and with few arguments their number decides what they mean.
-/

namespace BindingCoverage.Host.Condition

inductive Operator where
  | unary (name : String)
  | binary (name : String)
  | bang
  | both
  | either
  | opening
  | closing
  deriving DecidableEq, Repr

def unaryNames : List String := [
  "-r", "-w", "-x", "-e", "-f", "-d", "-c", "-b", "-p", "-u", "-g", "-k", "-s", "-t", "-z", "-n",
  "-h", "-O", "-G", "-L", "-S"]

def binaryNames : List String := [
  "=", "!=", "<", ">", "-eq", "-ne", "-ge", "-gt", "-le", "-lt", "-nt", "-ot", "-ef"]

def operator? (s : String) : Option Operator :=
  if unaryNames.contains s then some (.unary s)
  else if binaryNames.contains s then some (.binary s)
  else
    match s with
    | "!" => some .bang
    | "-a" => some .both
    | "-o" => some .either
    | "(" => some .opening
    | ")" => some .closing
    | _ => none

def isBinary (s : String) : Bool := binaryNames.contains s

/-- What an argument is where it stands. -/
inductive Token where
  | ending
  | operand
  | operator (o : Operator)
  deriving DecidableEq, Repr

/-- Whether an argument that names an operator with one operand is an operand itself. -/
def isOperand (arguments : Array String) (i : Nat) : Bool :=
  match arguments[i + 1]?, arguments[i + 2]? with
  | none, _ => true
  | some _, none => false
  | some next, some _ => isBinary next

def tokenAt (arguments : Array String) (i : Nat) : Token :=
  match arguments[i]? with
  | none => .ending
  | some s =>
    match operator? s with
    | none => .operand
    | some (.unary name) => if isOperand arguments i then .operand else .operator (.unary name)
    | some .opening =>
      if arguments[i + 1]?.isNone then .operand else .operator .opening
    | some o => .operator o

/-- What is asked of a file. -/
def holdsOfFile (files : Files) (name path : String) : Bool :=
  match files.node (Octets.text path) with
  | .error _ => false
  | .ok node =>
    match name, node with
    | "-e", _ | "-r", _ | "-w", _ | "-O", _ | "-G", _ => true
    | "-f", .file _ _ | "-f", .program _ => true
    | "-d", .directory => true
    | "-c", .device _ | "-c", .descriptor _ => true
    | "-x", .file _ executable => executable
    | "-x", .directory | "-x", .program _ => true
    | "-s", .file octets _ => !octets.isEmpty
    | "-s", .directory | "-s", .program _ => true
    | _, _ => false

def isSameFile (files : Files) (a b : String) : Bool :=
  match files.resolve (Octets.text a), files.resolve (Octets.text b) with
  | .ok p, .ok q => p == q
  | _, _ => false

/-- A state of the evaluation is the number of the argument that was looked at last. -/
abbrev Work := StateT Nat (Except String)

def integer (s : String) : Work Int :=
  match number? (some 10) s with
  | some n => return n
  | none => throw s!"Illegal number: {s}"

def compare (files : Files) (a name b : String) : Work Bool := do
  let numbers (f : Int → Int → Bool) : Work Bool := do
    let x ← integer a
    return f x (← integer b)
  match name with
  | "=" => return a == b
  | "!=" => return a != b
  | "<" => return a < b
  | ">" => return b < a
  | "-eq" => numbers (· == ·)
  | "-ne" => numbers (· != ·)
  | "-ge" => numbers (· ≥ ·)
  | "-gt" => numbers (· > ·)
  | "-le" => numbers (· ≤ ·)
  | "-lt" => numbers (· < ·)
  | "-ef" => return isSameFile files a b
  | _ => return false

/-- A test with one operand. -/
def single (files : Files) (name operand : String) : Work Bool := do
  match name with
  | "-z" => return operand.isEmpty
  | "-n" => return !operand.isEmpty
  | "-t" => do
    discard (integer operand)
    return false
  | _ => return holdsOfFile files name operand

mutual

/-- Conditions with `-o` between them, from a token that was looked at. -/
def alternatives (files : Files) (arguments : Array String) : Nat → Bool → Token → Work Bool
  | 0, _, _ => throw "too many arguments"
  | fuel + 1, before, t => do
    let holds := before || (← conjunction files arguments fuel true t)
    match tokenAt arguments ((← get) + 1) with
    | .operator .either => do
      modify (· + 2)
      alternatives files arguments fuel holds (tokenAt arguments (← get))
    | _ => return holds

/-- Conditions with `-a` between them. -/
def conjunction (files : Files) (arguments : Array String) : Nat → Bool → Token → Work Bool
  | 0, _, _ => throw "too many arguments"
  | fuel + 1, before, t => do
    let holds ← negation files arguments fuel t
    let holds := before && holds
    match tokenAt arguments ((← get) + 1) with
    | .operator .both => do
      modify (· + 2)
      conjunction files arguments fuel holds (tokenAt arguments (← get))
    | _ => return holds

def negation (files : Files) (arguments : Array String) : Nat → Token → Work Bool
  | 0, _ => throw "too many arguments"
  | fuel + 1, t => do
    match t with
    | .operator .bang => do
      let next := tokenAt arguments ((← get) + 1)
      if next ≠ .ending then modify (· + 1)
      return !(← negation files arguments fuel next)
    | t => primary files arguments fuel t

def primary (files : Files) (arguments : Array String) : Nat → Token → Work Bool
  | 0, _ => throw "too many arguments"
  | fuel + 1, t => do
    match t with
    | .ending => return false
    | .operator .opening => do
      modify (· + 1)
      match tokenAt arguments (← get) with
      | .operator .closing => return false
      | next => do
        let holds ← alternatives files arguments fuel false next
        modify (· + 1)
        if tokenAt arguments (← get) ≠ .operator .closing then throw "closing paren expected"
        return holds
    | .operator (.unary name) => do
      modify (· + 1)
      match arguments[← get]? with
      | none => throw s!"{name}: argument expected"
      | some operand => single files name operand
    | _ => do
      let i ← get
      let first := arguments[i]?.getD ""
      match tokenAt arguments (i + 1) with
      | .operator (.binary name) => do
        modify (· + 2)
        match arguments[i + 2]? with
        | none => throw s!"{name}: argument expected"
        | some second => compare files first name second
      | _ => return !first.isEmpty

end

/-- What the arguments say, which may be fewer than there were at first. -/
def holdsFrom (files : Files) : Nat → List String → Except String Bool
  | 0, _ => .error "too many arguments"
  | fuel + 1, arguments =>
    let whole (t : Option Token) (arguments : List String) : Except String Bool := do
      let array := arguments.toArray
      let size := 8 * (arguments.length + 2)
      let (holds, last) ←
        (alternatives files array size false (t.getD (tokenAt array 0))).run 0
      match array[last]?, array[last + 1]? with
      | some s, some _ => throw s!"{s}: unexpected operator"
      | _, _ => return holds
    let short : Except String Bool :=
      match arguments with
      | "(" :: rest =>
        if rest.getLast? = some ")" then whole none rest.dropLast else whole none arguments
      | "!" :: rest => (holdsFrom files fuel rest).map (!·)
      | _ => whole none arguments
    match arguments with
    | [] => .ok false
    | [_, operator, _] => if isBinary operator then whole (some .operand) arguments else short
    | [_, _, _, _] => short
    | _ => whole none arguments

/-- Whether the condition holds that the arguments of `test` state. -/
def holds (files : Files) (arguments : List String) : Except String Bool :=
  holdsFrom files (arguments.length + 1) arguments

end BindingCoverage.Host.Condition
