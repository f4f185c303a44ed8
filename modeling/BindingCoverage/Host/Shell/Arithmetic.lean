import BindingCoverage.Host.Number
import BindingCoverage.Host.Shell.Syntax

/-!
# Arithmetic

Expressions on numbers of 64 bits, with the operators of C and their ranks. Numbers that grow too
large wrap around. What comes after `&&`, `||` or `?` and is not needed is read and not worked out,
so it cannot fail and sets no variable.
-/

namespace BindingCoverage.Host.Shell

namespace Arithmetic

inductive Operation where
  | times
  | over
  | modulo
  | plus
  | minus
  | left
  | right
  | below
  | atMost
  | above
  | atLeast
  | same
  | different
  | bitAnd
  | bitXor
  | bitOr
  deriving DecidableEq, Repr

/-- Operations of a lower rank are done first. -/
def Operation.rank : Operation → Nat
  | .times | .over | .modulo => 1
  | .plus | .minus => 2
  | .left | .right => 3
  | .below | .atMost | .above | .atLeast => 4
  | .same | .different => 5
  | .bitAnd => 6
  | .bitXor => 7
  | .bitOr => 8

def greatestRank : Nat := 8

inductive Symbol where
  | number (n : Int64)
  | name (s : String)
  | operation (o : Operation)
  /-- An assignment, perhaps of the result of an operation on the old value. -/
  | assign (o : Option Operation)
  | both
  | either
  | question
  | colon
  | opening
  | closing
  | bang
  | tilde
  | unknown
  deriving DecidableEq, Repr

/-! ## Symbols -/

/-- An operator at the start of a text, with its length. -/
def operatorAt : List Char → Symbol × Nat
  | '<' :: '<' :: '=' :: _ => (.assign (some .left), 3)
  | '>' :: '>' :: '=' :: _ => (.assign (some .right), 3)
  | '<' :: '<' :: _ => (.operation .left, 2)
  | '>' :: '>' :: _ => (.operation .right, 2)
  | '<' :: '=' :: _ => (.operation .atMost, 2)
  | '>' :: '=' :: _ => (.operation .atLeast, 2)
  | '=' :: '=' :: _ => (.operation .same, 2)
  | '!' :: '=' :: _ => (.operation .different, 2)
  | '&' :: '&' :: _ => (.both, 2)
  | '|' :: '|' :: _ => (.either, 2)
  | '*' :: '=' :: _ => (.assign (some .times), 2)
  | '/' :: '=' :: _ => (.assign (some .over), 2)
  | '%' :: '=' :: _ => (.assign (some .modulo), 2)
  | '+' :: '=' :: _ => (.assign (some .plus), 2)
  | '-' :: '=' :: _ => (.assign (some .minus), 2)
  | '&' :: '=' :: _ => (.assign (some .bitAnd), 2)
  | '^' :: '=' :: _ => (.assign (some .bitXor), 2)
  | '|' :: '=' :: _ => (.assign (some .bitOr), 2)
  | '<' :: _ => (.operation .below, 1)
  | '>' :: _ => (.operation .above, 1)
  | '=' :: _ => (.assign none, 1)
  | '*' :: _ => (.operation .times, 1)
  | '/' :: _ => (.operation .over, 1)
  | '%' :: _ => (.operation .modulo, 1)
  | '+' :: _ => (.operation .plus, 1)
  | '-' :: _ => (.operation .minus, 1)
  | '&' :: _ => (.operation .bitAnd, 1)
  | '^' :: _ => (.operation .bitXor, 1)
  | '|' :: _ => (.operation .bitOr, 1)
  | '?' :: _ => (.question, 1)
  | ':' :: _ => (.colon, 1)
  | '(' :: _ => (.opening, 1)
  | ')' :: _ => (.closing, 1)
  | '!' :: _ => (.bang, 1)
  | '~' :: _ => (.tilde, 1)
  | _ => (.unknown, 1)

/-- The symbols of an expression, of which each takes at least one character. -/
def symbolsFrom : Nat → List Char → List Symbol
  | 0, _ | _, [] => []
  | fuel + 1, c :: rest =>
    if isSpace c then symbolsFrom fuel rest
    else if c.isDigit then
      match leadingNumber? none (c :: rest) with
      | some n => .number (Int64.ofInt n.value) :: symbolsFrom fuel n.rest
      | none => [.unknown]
    else if startsName c then
      let name := (c :: rest).takeWhile continuesName
      .name (String.ofList name) :: symbolsFrom fuel ((c :: rest).drop name.length)
    else
      let (symbol, length) := operatorAt (c :: rest)
      symbol :: symbolsFrom fuel ((c :: rest).drop length)

def symbols (s : List Char) : List Symbol := symbolsFrom s.length s

/-! ## Working out -/

inductive Fault where
  /-- What is wrong with the expression. -/
  | expression (text : String)
  | badNumber (text : String)
  | readOnly (name : String)
  deriving DecidableEq, Repr

/-- The variables that an expression names. -/
structure Variables where
  value? : String → Option String
  isReadOnly : String → Bool

structure State where
  rest : List Symbol
  /-- What was assigned, the latest first. -/
  assigned : List (String × String) := []

abbrev Work := StateT State (Except Fault)

def truth (b : Bool) : Int64 := if b then 1 else 0

def apply : Operation → Int64 → Int64 → Except Fault Int64
  | .times, a, b => .ok (a * b)
  | .over, a, b => if b = 0 then .error (.expression "division by zero") else .ok (a / b)
  | .modulo, a, b => if b = 0 then .error (.expression "division by zero") else .ok (a % b)
  | .plus, a, b => .ok (a + b)
  | .minus, a, b => .ok (a - b)
  | .left, a, b => .ok (a <<< b)
  | .right, a, b => .ok (a >>> b)
  | .below, a, b => .ok (truth (a < b))
  | .atMost, a, b => .ok (truth (a ≤ b))
  | .above, a, b => .ok (truth (b < a))
  | .atLeast, a, b => .ok (truth (b ≤ a))
  | .same, a, b => .ok (truth (a == b))
  | .different, a, b => .ok (truth (a != b))
  | .bitAnd, a, b => .ok (a &&& b)
  | .bitXor, a, b => .ok (a ^^^ b)
  | .bitOr, a, b => .ok (a ||| b)

def peek? : Work (Option Symbol) := do return (← get).rest.head?

def skip : Work Unit := modify fun s => { s with rest := s.rest.drop 1 }

def fault {α : Type} (text : String) : Work α := throw (.expression text)

def valueOf (v : Variables) (name : String) : Work Int64 := do
  let text := ((((← get).assigned.find? (·.1 == name)).map (·.2)).or (v.value? name)).getD ""
  match number? none text with
  | some n => return Int64.ofInt n
  | none => throw (.badNumber text)

def setValue (v : Variables) (name : String) (n : Int64) : Work Unit := do
  if v.isReadOnly name then throw (.readOnly name)
  modify fun s => { s with assigned := (name, toString n.toInt) :: s.assigned }

/-- The kinds of expressions that stand inside others. -/
inductive Kind where
  | assignment
  | conditional
  | unary
  deriving DecidableEq, Repr

/-- How an expression is worked out, or only read. -/
abbrev Evaluator := Kind → Bool → Work Int64

/-- An expression that begins with a sign, a parenthesis, a number or a name. -/
def unary (v : Variables) (inner : Evaluator) (counts : Bool) : Work Int64 := do
  match ← peek? with
  | some .opening => do
    skip
    let n ← inner .assignment counts
    if (← peek?) = some .closing then
      skip
      return n
    else fault "expecting ')'"
  | some (.number n) => do
    skip
    return n
  | some (.name s) => do
    skip
    if counts then valueOf v s else return 0
  | some (.operation .plus) => do
    skip
    inner .unary counts
  | some (.operation .minus) => do
    skip
    return -(← inner .unary counts)
  | some .bang => do
    skip
    return truth ((← inner .unary counts) == 0)
  | some .tilde => do
    skip
    return ~~~(← inner .unary counts)
  | _ => fault "expecting primary"

/-- The operations of one rank that come after a first operand. -/
def furtherOperations (rank : Nat) (operand : Work Int64) (counts : Bool) :
    Nat → Int64 → Work Int64
  | 0, a => return a
  | fuel + 1, a => do
    match ← peek? with
    | some (.operation o) =>
      if o.rank = rank then
        skip
        let b ← operand
        let a ← if counts then apply o a b else pure b
        furtherOperations rank operand counts fuel a
      else return a
    | _ => return a

/-- Operations up to a rank. -/
def operations (v : Variables) (inner : Evaluator) (counts : Bool) : Nat → Work Int64
  | 0 => unary v inner counts
  | rank + 1 => do
    let operand := operations v inner counts rank
    let a ← operand
    furtherOperations (rank + 1) operand counts (← get).rest.length a

/-- Expressions with `&&` between them. -/
def both (v : Variables) (inner : Evaluator) : Nat → Bool → Work Int64
  | 0, _ => fault "expecting primary"
  | fuel + 1, counts => do
    let a ← operations v inner counts greatestRank
    if (← peek?) = some .both then
      skip
      let b ← both v inner fuel (counts && a != 0)
      return truth (a != 0 && b != 0)
    else return a

/-- Expressions with `||` between them. -/
def either (v : Variables) (inner : Evaluator) : Nat → Bool → Work Int64
  | 0, _ => fault "expecting primary"
  | fuel + 1, counts => do
    let a ← both v inner (fuel + 1) counts
    if (← peek?) = some .either then
      skip
      let b ← either v inner fuel (counts && a == 0)
      return truth (a != 0 || b != 0)
    else return a

def conditional (v : Variables) (inner : Evaluator) (counts : Bool) : Work Int64 := do
  let a ← either v inner ((← get).rest.length + 1) counts
  if (← peek?) = some .question then
    skip
    let b ← inner .assignment (counts && a != 0)
    if (← peek?) = some .colon then
      skip
      let c ← inner .conditional (counts && a == 0)
      return if a != 0 then b else c
    else fault "expecting ':'"
  else return a

def assignment (v : Variables) (inner : Evaluator) (counts : Bool) : Work Int64 := do
  match (← get).rest with
  | .name s :: .assign o :: rest => do
    modify fun state => { state with rest }
    let n ← inner .assignment counts
    if counts then
      let n ← match o with
        | some o => apply o (← valueOf v s) n
        | none => pure n
      setValue v s n
      return n
    else return n
  | _ => conditional v inner counts

/-- The evaluator for expressions of so many levels. -/
def evaluator (v : Variables) : Nat → Evaluator
  | 0, _, _ => fault "expecting primary"
  | depth + 1, kind, counts =>
    match kind with
    | .assignment => assignment v (evaluator v depth) counts
    | .conditional => conditional v (evaluator v depth) counts
    | .unary => unary v (evaluator v depth) counts

/-- The value of an expression, and what it assigned, in the order of the assignments. -/
def evaluate (v : Variables) (s : List Char) : Except Fault (Int × List (String × String)) := do
  let start : State := { rest := symbols s }
  let whole : Work Int64 := do
    let n ← evaluator v (start.rest.length + 1) .assignment true
    if (← peek?).isSome then fault "expecting EOF"
    return n
  let (n, after) ← whole.run start
  return (n.toInt, after.assigned.reverse)

end Arithmetic

end BindingCoverage.Host.Shell
