import BindingCoverage.Host.Regex.Reader
import BindingCoverage.Host.Utility.Basic

/-!
# Expressions of words

`expr` puts a value together from its arguments: texts and whole numbers of any size, with a table
of operators that bind more and more closely. A value that is empty or zero counts as false.
-/

namespace BindingCoverage.Host.Utility.Calculation

/-- What stops a calculation. -/
inductive Fault where
  | unexpected (word : String)
  /-- A group is closed that has nothing in it. -/
  | emptyGroup
  | missing (after : String)
  | noClosing (after : String)
  | wrongClosing (word : String)
  | notInteger
  | divisionByZero
  | pattern (text : String)
  deriving DecidableEq, Repr

def Fault.message : Fault → String
  | .unexpected word => s!"syntax error: unexpected argument '{word}'"
  | .emptyGroup => "syntax error: unexpected ')'"
  | .missing after => s!"syntax error: missing argument after '{after}'"
  | .noClosing after => s!"syntax error: expecting ')' after '{after}'"
  | .wrongClosing word => s!"syntax error: expecting ')' instead of '{word}'"
  | .notInteger => "non-integer argument"
  | .divisionByZero => "division by zero"
  | .pattern text => text

/-- The words that are left, and the last one that was read. -/
structure Source where
  rest : List String
  last : String := ""

abbrev Work := StateT Source (Except Fault)

/-- Whether a text counts as false: it is empty, or a zero. -/
def isNull (s : String) : Bool :=
  let digits := match s.toList with
    | '-' :: rest => rest
    | cs => cs
  s.isEmpty || (!digits.isEmpty && digits.all (· == '0'))

/-- The whole number that a text writes. -/
def integer? (s : String) : Option Int :=
  match s.toList with
  | '-' :: digits =>
    if !digits.isEmpty && digits.all Char.isDigit then some (-(valueIn 10 digits : Int)) else none
  | digits =>
    if !digits.isEmpty && digits.all Char.isDigit then some (valueIn 10 digits : Int) else none

def integer (s : String) : Work Int :=
  match integer? s with
  | some n => return n
  | none => throw .notInteger

def peek : Work (Option String) := do return (← get).rest.head?

def take : Work (Option String) := do
  match ← get with
  | ⟨[], _⟩ => return none
  | ⟨w :: rest, _⟩ => do
    set (⟨rest, w⟩ : Source)
    return some w

/-- What a pattern matches at the start of a text: the first group if there is one, or how much. -/
def matched (text pattern : String) : Work String := do
  match Regex.ofText { isExtended := false, isStrict := true } pattern.toList with
  | .error e => throw (.pattern e.message)
  | .ok r =>
    let subject : Regex.Subject := { text := text.toList.toArray }
    let hasGroups := 0 < r.groupCount
    match r.matchAt? subject r.refersBack 0 with
    | none => return if hasGroups then "" else "0"
    | some m =>
      if hasGroups then
        return match m.group? 1 with
          | some (a, b) => String.ofList ((text.toList.drop a).take (b - a))
          | none => ""
      else return toString m.stop

def compared (a operator b : String) : Bool :=
  let order : Ordering :=
    match integer? a, integer? b with
    | some x, some y => compare x y
    | _, _ => compare a b
  match operator with
  | "=" | "==" => order == .eq
  | "!=" => order != .eq
  | "<" => order == .lt
  | "<=" => order != .gt
  | ">" => order == .gt
  | _ => order != .lt

def arithmetic (a operator b : String) : Work String := do
  let x ← integer a
  let y ← integer b
  match operator with
  | "+" => return toString (x + y)
  | "-" => return toString (x - y)
  | "*" => return toString (x * y)
  | "/" => if y = 0 then throw .divisionByZero else return toString (x.tdiv y)
  | _ => if y = 0 then throw .divisionByZero else return toString (x.tmod y)

/-- The operators of a level, the loosest level being the first. -/
def operators : Nat → List String
  | 0 => ["|"]
  | 1 => ["&"]
  | 2 => ["<", "<=", "=", "==", "!=", ">=", ">"]
  | 3 => ["+", "-"]
  | 4 => ["*", "/", "%"]
  | _ => [":"]

/-- What an operator gives. -/
def applied (a operator b : String) : Work String := do
  match operator with
  | "|" => return if !isNull a then a else if isNull b then "0" else b
  | "&" => return if isNull a || isNull b then "0" else a
  | ":" => matched a b
  | _ =>
    if (operators 2).contains operator then return if compared a operator b then "1" else "0"
    else arithmetic a operator b

mutual

/-- A value of a level: values of the next one with operators between them. -/
def level (n : Nat) : Nat → Work String
  | 0 => throw .notInteger
  | fuel + 1 => do
    let first ← if n < 5 then level (n + 1) fuel else word fuel
    more n fuel first

def more (n : Nat) : Nat → String → Work String
  | 0, a => return a
  | fuel + 1, a => do
    match ← peek with
    | some operator =>
      if (operators n).contains operator then
        discard take
        let b ← if n < 5 then level (n + 1) fuel else word fuel
        more n fuel (← applied a operator b)
      else return a
    | none => return a

/-- A word, a function of words, or an expression in parentheses. -/
def word : Nat → Work String
  | 0 => throw .notInteger
  | fuel + 1 => do
    let last := (← get).last
    match ← take with
    | none => throw (.missing last)
    | some "(" => do
      let value ← level 0 fuel
      match ← take with
      | some ")" => return value
      | some other => throw (.wrongClosing other)
      | none => throw (.noClosing (← get).last)
    | some ")" => throw .emptyGroup
    | some "+" => do
      match ← take with
      | some w => return w
      | none => throw (.missing "+")
    | some "length" => do return toString (← word fuel).length
    | some "match" => do
      let text ← word fuel
      matched text (← word fuel)
    | some "index" => do
      let text ← word fuel
      let chars := (← word fuel).toList
      let before := text.toList.takeWhile (!chars.contains ·)
      return if before.length < text.length then toString (before.length + 1) else "0"
    | some "substr" => do
      let text ← word fuel
      let start ← word fuel
      let count ← word fuel
      match integer? start, integer? count with
      | some a, some n =>
        if a ≤ 0 || n ≤ 0 then return ""
        else return String.ofList ((text.toList.drop (a.toNat - 1)).take n.toNat)
      | _, _ => return ""
    | some w => return w

end

/-- The value of all words. -/
def whole : Work String := do
  let value ← level 0 (8 * (← get).rest.length + 16)
  match ← peek with
  | some extra => throw (.unexpected extra)
  | none => return value

end Calculation

open Calculation in
def expr : Routine := fun c => do
  let words := if c.arguments.head? = some "--" then c.arguments.drop 1 else c.arguments
  if words.isEmpty then
    c.misused "missing operand"
    return 2
  match whole.run { rest := words } with
  | .error e => do
    c.complain e.message
    return 2
  | .ok (value, _) => do
    c.print (value ++ "\n")
    return if isNull value then 1 else 0

end BindingCoverage.Host.Utility
