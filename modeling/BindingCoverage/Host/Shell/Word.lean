import BindingCoverage.Host.Shell.Reader

/-!
# Reading words

A word ends at a blank, at the end of the line, or where an operator begins. Inside quotes and
braces other rules hold, and the commands in a substitution are read by the reader of commands,
which is given as `Nested`.
-/

namespace BindingCoverage.Host.Shell

/-- The commands that may stand inside a word. -/
structure Nested where
  /-- Up to the parenthesis that closes. -/
  parenthesized : Reading Command
  /-- Up to the end of the script. -/
  whole : Reading Command

/-- Where a character stands. -/
inductive Place where
  | word
  | quotes
  | document
  /-- An arithmetic expression, and how many parentheses are open in it. -/
  | expression (depth : Nat)
  /-- The braces of a parameter, whether they follow the rules of quoted text, and whether another
  pair of quotes has been opened in them. -/
  | braces (isQuoted inner : Bool)
  deriving DecidableEq, Repr

/-- Whether the rules of quoted text hold. -/
def Place.isQuoted : Place → Bool
  | .word | .braces false _ => false
  | _ => true

def Place.isInBraces : Place → Bool
  | .braces _ _ => true
  | _ => false

/-- Whether a character ends a word. -/
def endsWord (c : Char) : Bool := " \t\n;&|()<>".toList.contains c

/-- Adds a character to parts of which the last comes first. -/
def pushChar (isQuoted : Bool) (c : Char) : List Part → List Part
  | .plain s :: rest =>
    if isQuoted then .literal (String.singleton c) :: .plain s :: rest
    else .plain (s.push c) :: rest
  | .literal s :: rest =>
    if isQuoted then .literal (s.push c) :: rest
    else .plain (String.singleton c) :: .literal s :: rest
  | parts => (if isQuoted then Part.literal else Part.plain) (String.singleton c) :: parts

namespace Reading

/-- What stands between single quotes, the second of which is taken. -/
def singleQuoted : Reading String := do
  let r ← get
  let text := r.rest.takeWhile (· != '\'')
  let lines := (text.filter (· == '\n')).length
  let rest := r.rest.drop text.length
  set { r with rest := rest.drop 1, line := r.line + lines }
  if rest.isEmpty then fail "Unterminated quoted string"
  return String.ofList text

/-- The text between backquotes, in which a backslash may keep the next character from its
meaning. -/
def backquoted (isQuoted : Bool) : Reading (List Char) :=
  loop [] fun text => do
    match ← peek? with
    | none => fail "EOF in backquote substitution"
    | some c => do
      takeCounted c
      match c with
      | '\x60' => return .inr text.reverse
      | '\\' => do
        match (← get).rest.head? with
        | none => return .inl (c :: text)
        | some d => do
          takeCounted d
          let loses := d = '\\' || d = '\x60' || d = '$' || (isQuoted && d = '"')
          return .inl (if loses then d :: text else d :: c :: text)
      | c => return .inl (c :: text)

/-- Reads commands from a text in place of the script. -/
def within {α : Type} (text : List Char) (reading : Reading α) : Reading α := do
  let r ← get
  let left := r.rest.length
  let replaced := (r.replaced.filter (·.left ≤ left)).map fun x => { x with left := 0 }
  set { r with rest := text, pushed := none, awaited := [], replaced }
  let a ← reading
  modify fun inner => { inner with rest := r.rest, line := r.line, pushed := r.pushed,
                                   awaited := r.awaited, replaced := r.replaced }
  return a

/-- The commands of a substitution in parentheses. -/
def parenthesized (nested : Nested) : Reading Part := do
  let r ← get
  set { r with pushed := none, awaited := [] }
  let command ← nested.parenthesized
  modify fun inner => { inner with pushed := r.pushed, awaited := r.awaited }
  return .substitution command

/-- The name of a parameter, where one begins. -/
def parameterName? (digits : Reading (List Char)) : Reading (Option String) := do
  match ← peek? with
  | some c =>
    if startsName c then return some (String.ofList (← takeWhile continuesName))
    else if c.isDigit then return some (String.ofList (← digits))
    else return none
  | none => return none

/-- The parameter in braces, with the operator if that comes before the name. -/
def bracedName? : Reading (Option (String × Operator)) := do
  let named ← parameterName? (takeWhile Char.isDigit)
  match named with
  | some name => return some (name, .value)
  | none =>
    match ← peek? with
    | none | some '\x7d' => return none
    | some '#' => do
      drop 1
      match ← parameterName? (takeWhile Char.isDigit) with
      | some name => return some (name, .length)
      | none =>
        match ← peek? with
        | none => return some ("#", .value)
        | some c =>
          let after := ((← get).rest.drop 1).head?
          if c = '\x7d' || after != some '\x7d' then return some ("#", .value)
          else do
            drop 1
            return if isSpecial c then some (String.singleton c, .length) else none
    | some c => do
      drop 1
      return if isSpecial c then some (String.singleton c, .value) else none

/-- The operator after the name of a parameter, and whether a colon comes with it. -/
def operator : Reading (Operator × Bool) := do
  match ← peek? with
  | some ':' => do
    drop 1
    let operator : Operator :=
      match ← peek? with
      | some '-' => .otherwise
      | some '+' => .instead
      | some '?' => .demand
      | some '=' => .supply
      | _ => .unknown
    if operator ≠ .unknown then drop 1
    return (operator, true)
  | some '-' => drop 1; return (.otherwise, false)
  | some '+' => drop 1; return (.instead, false)
  | some '?' => drop 1; return (.demand, false)
  | some '=' => drop 1; return (.supply, false)
  | some '#' => drop 1; return (.dropStart (← take? '#'), false)
  | some '%' => drop 1; return (.dropEnd (← take? '%'), false)
  | _ => return (.unknown, false)

/-- The rules for the operand of an operator. -/
def operandPlace (place : Place) : Operator → Place
  | .dropStart _ | .dropEnd _ => .braces false false
  | _ => .braces place.isQuoted false

/-- Why the script must not end in some place. -/
def endFault (place : Place) : Option String :=
  match place with
  | .word | .document => none
  | .quotes | .braces true _ => some "Unterminated quoted string"
  | .expression _ => some "Missing '))'"
  | .braces false _ => some "Missing '\x7d'"

/-- Whether a backslash keeps its own meaning before a character of quoted text. -/
def staysBackslash (place : Place) (c : Char) : Bool :=
  place.isQuoted && c != '\\' && c != '\x60' && c != '$' && (c != '"' || place == .document) &&
    (c != '\x7d' || !place.isInBraces)

/-- The parts from here to the end of a place, added to parts of which the last comes first. -/
def parts (nested : Nested) : Nat → Place → List Part → Reading (List Part)
  | 0, _, _ => fail "Unreadable"
  | fuel + 1, place, done => do
    let isQuoted := place.isQuoted
    match ← peek? with
    | none =>
      match endFault place with
      | some text => fail text
      | none => return done.reverse
    | some c =>
      let push : Reading (List Part) := do
        takeCounted c
        parts nested fuel place (pushChar isQuoted c done)
      if place == .word && endsWord c then return done.reverse
      else
        match c with
        | '\\' => do
          drop 1
          match (← get).rest.head? with
          | none => parts nested fuel place (pushChar true c done)
          | some d => do
            takeCounted d
            let done := if staysBackslash place d then pushChar true c done else done
            parts nested fuel place (pushChar true d done)
        | '\'' =>
          if isQuoted then push
          else do
            drop 1
            parts nested fuel place (.literal (← singleQuoted) :: done)
        | '"' =>
          match place with
          | .quotes => do
            drop 1
            return done.reverse
          | .braces true inner => do
            drop 1
            parts nested fuel (.braces true !inner) done
          | .word | .braces false _ => do
            drop 1
            let inside ← parts nested fuel .quotes []
            parts nested fuel place (.quoted inside :: done)
          | _ => push
        | '\x7d' =>
          match place with
          | .braces _ false => do
            drop 1
            return done.reverse
          | _ => push
        | '(' =>
          match place with
          | .expression depth => do
            drop 1
            parts nested fuel (.expression (depth + 1)) (pushChar true c done)
          | _ => push
        | ')' =>
          match place with
          | .expression (depth + 1) => do
            drop 1
            parts nested fuel (.expression depth) (pushChar true c done)
          | .expression 0 => do
            drop 1
            if ← take? ')' then return done.reverse
            else parts nested fuel place (pushChar true c done)
          | _ => push
        | '\x60' => do
          drop 1
          let text ← backquoted isQuoted
          let command ← within text nested.whole
          parts nested fuel place (.substitution command :: done)
        | '$' => do
          drop 1
          match ← peek? with
          | some '(' => do
            drop 1
            if ← take? '(' then
              let expression ← parts nested fuel (.expression 0) []
              parts nested fuel place (.arithmetic expression :: done)
            else
              let part ← parenthesized nested
              parts nested fuel place (part :: done)
          | some '\x7b' => do
            drop 1
            let named ← bracedName?
            let (name, before) := named.getD ("", .unknown)
            if named.isSome && (← peek?) = some '\x7d' then do
              drop 1
              parts nested fuel place (.parameter name before false [] :: done)
            else
              let (operator, colon) ←
                if before = .value then operator else pure (.unknown, false)
              let operand ← parts nested fuel (operandPlace place operator) []
              parts nested fuel place (.parameter name operator colon operand :: done)
          | some d =>
            if isSpecial d then do
              drop 1
              parts nested fuel place (.parameter (String.singleton d) .value false [] :: done)
            else
              match ← parameterName? (do drop 1; return [d]) with
              | some name => parts nested fuel place (.parameter name .value false [] :: done)
              | none => parts nested fuel place (pushChar isQuoted c done)
          | none => parts nested fuel place (pushChar isQuoted c done)
        | _ => push

/-- The parts up to the end of a place. -/
def partsIn (nested : Nested) (place : Place) : Reading (List Part) := do
  parts nested ((← get).rest.length + 2) place []

end Reading

end BindingCoverage.Host.Shell
