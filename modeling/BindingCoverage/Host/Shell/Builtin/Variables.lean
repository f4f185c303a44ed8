import BindingCoverage.Host.Format
import BindingCoverage.Host.Shell.Builtin.Basic

/-!
# Variables, parameters and options
-/

namespace BindingCoverage.Host.Shell.Builtin

open Script

/-! ## Marks -/

/-- The variables that are shown, in order. -/
def shown (test : Variable → Bool) (withUnset : Bool) (s : State) : List (String × Option String) :=
  let chosen := s.vars.filter fun (_, v) => test v && (withUnset || v.value.isSome)
  Text.Sorted.unique (chosen.map (·.1)) |>.map fun name => (name, s.value? name)

def printVariables (mark : String) (test : Variable → Bool) : Script Unit := do
  let s ← get
  for (name, value) in shown test (mark != "") s do
    match value with
    | some value => print s!"{mark}{name}={quotedText value}\n"
    | none => print s!"{mark}{name}\n"

/-- Marks variables, which may get values as well. -/
def marking (mark : String) (test : Variable → Bool) (set : Variable → Variable)
    (arguments : List String) : Script Nat := do
  let (given, arguments) ← options "p" "" arguments
  if arguments.isEmpty || !given.isEmpty then
    printVariables s!"{mark} " test
    return 0
  for a in arguments do
    let (name, value) := argumentAssignment a
    if !isName name then fail s!"{name}: bad variable name"
    match value with
    | some value => assign name value false
    | none => pure ()
    modify fun s => s.withVariable name (set ((s.binding? name).getD ⟨none, false, false⟩))
  return 0

def export_ (arguments : List String) : Script Nat :=
  marking "export" (·.isExported) (fun v => { v with isExported := true }) arguments

def readonly (arguments : List String) : Script Nat :=
  marking "readonly" (·.isReadOnly) (fun v => { v with isReadOnly := true }) arguments

/-- Makes variables local to a function. They keep their values unless they get new ones. -/
def local_ (arguments : List String) : Script Nat := do
  if (← get).frames.isEmpty then fail "not in a function"
  for a in arguments do
    let (name, value) := argumentAssignment a
    if a ≠ "-" then
      if !isName name then fail s!"{name}: bad variable name"
      makeLocal name
      match value with
      | some value => assign name value false
      | none => pure ()
  return 0

def unset (arguments : List String) : Script Nat := do
  let (given, arguments) ← options "fv" "" arguments
  let isFunction := given.getLast?.any (·.1 == 'f')
  for name in arguments do
    if isFunction then
      modify fun s => { s with functions := s.functions.filter (·.1 != name) }
    else
      if !isName name then fail s!"{name}: bad variable name"
      if ((← get).binding? name).any (·.isReadOnly) then fail s!"{name}: is read only"
      modify fun s => s.withoutVariable name
  return 0

/-! ## Options and parameters -/

/-- The options with their names. -/
def optionNames : List (String × Option Char) := [
  ("errexit", some 'e'), ("noglob", some 'f'), ("ignoreeof", some 'I'), ("interactive", some 'i'),
  ("monitor", some 'm'), ("noexec", some 'n'), ("stdin", some 's'), ("xtrace", some 'x'),
  ("verbose", some 'v'), ("vi", some 'V'), ("emacs", some 'E'), ("noclobber", some 'C'),
  ("allexport", some 'a'), ("notify", some 'b'), ("nounset", some 'u'), ("privileged", some 'p'),
  ("nolog", none), ("debug", none)]

/-- Sets an option. A shell without a terminal has no control over jobs. -/
def setOption (isOn : Bool) (letter : Char) : Script Unit := do
  if isOn && letter == 'm' then warn "can't access tty; job control turned off"
  else modify fun s =>
    let others := s.options.filter (· != letter)
    { s with options := if isOn then letter :: others else others }

def setNamedOption (isOn : Bool) (name : String) : Script Unit := do
  match optionNames.find? (·.1 == name) with
  | some (_, some letter) => setOption isOn letter
  | some (_, none) => return
  | none => fail s!"Illegal option -o {name}"

def printOptions (isOn : Bool) : Script Unit := do
  let s ← get
  let isSet (letter : Option Char) : Bool := letter.any s.hasOption
  if isOn then
    print "Current option settings\n"
    for (name, letter) in optionNames do
      let state := if isSet letter then "on" else "off"
      print (name ++ Format.repeated (16 - name.length) ' ' ++ state ++ "\n")
  else
    for (name, letter) in optionNames do
      let sign := if isSet letter then "-" else "+"
      print s!"set {sign}o {name}\n"

/-- The letters of one argument that sets options. -/
def setLetters (isOn : Bool) : List Char → List String → Script (List String)
  | [], rest => return rest
  | 'o' :: more, rest => do
    match rest with
    | name :: rest => do
      setNamedOption isOn name
      setLetters isOn more rest
    | [] => do
      printOptions isOn
      return []
  | c :: more, rest => do
    if optionNames.any (·.2 == some c) then
      setOption isOn c
      setLetters isOn more rest
    else fail s!"Illegal option -{c}"

/-- Sets the options at the start of arguments. What is left are parameters, if there are any or if
it was said that there are none. -/
def setOptions : Nat → List String → Script (Option (List String))
  | 0, rest => return some rest
  | _ + 1, [] => return none
  | fuel + 1, a :: rest => do
    match a.toList with
    | ['-'] => return if rest.isEmpty then none else some rest
    | ['-', '-'] => return some rest
    | '-' :: letters => do setOptions fuel (← setLetters true letters rest)
    | '+' :: letters => do setOptions fuel (← setLetters false letters rest)
    | _ => return some (a :: rest)

def set_ (arguments : List String) : Script Nat := do
  if arguments.isEmpty then
    printVariables "" fun _ => true
    return 0
  match ← setOptions (arguments.length + 1) arguments with
  | some parameters => modify fun s => { s with parameters, optionOffset := none }
  | none => pure ()
  return 0

def shift (arguments : List String) : Script Nat := do
  let count ← match arguments with
    | [] => pure 1
    | a :: _ => number a
  let s ← get
  if s.parameters.length < count then fail "can't shift that many"
  set { s with parameters := s.parameters.drop count, optionOffset := none }
  return 0

/-! ## Options of scripts -/

/-- The next option among arguments: the number of the argument and the place in it to go on with,
the name, and the value if there is one. -/
structure NextOption where
  index : Nat
  offset : Option Nat
  name : String
  value : Option String
  complaint : Option String := none

/-- Looks for the next option. There is none at an argument that is no option. -/
def nextOption (specification : String) (arguments : List String) (index : Nat)
    (offset : Option Nat) : Except Nat NextOption :=
  let isSilent := specification.startsWith ":"
  let current := (arguments[index - 1]?).getD ""
  let place : Except Nat (Nat × Nat) :=
    match offset with
    | some o => if o < current.length then .ok (index, o) else begin_ index
    | none => begin_ index
  match place with
  | .error index => .error index
  | .ok (index, offset) =>
    let cs := ((arguments[index - 1]?).getD "").toList
    let c := cs[offset]?.getD '?'
    let isLast := cs.length ≤ offset + 1
    let next : Nat × Option Nat := if isLast then (index + 1, none) else (index, some (offset + 1))
    let known := if c = ':' then none else after specification.toList c
    match known with
    | none =>
      .ok { index := next.1, offset := next.2, name := "?"
            value := if isSilent then some (String.singleton c) else none
            complaint := if isSilent then none else some s!"Illegal option -{c}\n" }
    | some false =>
      .ok { index := next.1, offset := next.2, name := String.singleton c, value := none }
    | some true =>
      if !isLast then
        .ok { index := index + 1, offset := none, name := String.singleton c
              value := some (String.ofList (cs.drop (offset + 1))) }
      else
        match arguments[index]? with
        | some value =>
          .ok
            { index := index + 2, offset := none, name := String.singleton c, value := some value }
        | none =>
          if isSilent then
            let value := some (String.singleton c)
            .ok { index := index + 1, offset := none, name := ":", value }
          else
            .ok { index := index + 1, offset := none, name := "?", value := none
                  complaint := some s!"No arg for -{c} option\n" }
where
  begin_ (index : Nat) : Except Nat (Nat × Nat) :=
    match arguments[index - 1]? with
    | none => .error index
    | some a =>
      if a = "--" then .error (index + 1)
      else if a.startsWith "-" && 1 < a.length then .ok (index, 1)
      else .error index
  /-- Whether a letter takes a value, if it is a letter of an option. -/
  after : List Char → Char → Option Bool
    | [], _ => none
    | d :: rest, c => if d = c then some (rest.head? == some ':') else after rest c

def getopts (arguments : List String) : Script Nat := do
  match arguments with
  | specification :: target :: rest => do
    let s ← get
    let rest := if rest.isEmpty then s.parameters else rest
    let index := max 1 (((s.value? "OPTIND").bind natural?).getD 1)
    match nextOption specification rest index s.optionOffset with
    | .error index => do
      assign target "?" false
      assign "OPTIND" (toString index) false
      return 1
    | .ok next => do
      match next.complaint with
      | some text => say text
      | none => pure ()
      match next.value with
      | some value => assign "OPTARG" value false
      | none => modify fun s => s.withoutVariable "OPTARG"
      assign "OPTIND" (toString next.index) false
      modify fun s => { s with optionOffset := next.offset }
      assign target next.name false
      return 0
  | _ => fail "Usage: getopts optstring var [arg...]"

/-! ## Reading a line -/

/-- A line of which each character is known to be quoted or not, and whether its end was found. -/
def readLine (isRaw : Bool) : Nat → List Cell → Script (List Cell × Bool)
  | 0, _ => lift Program.stall
  | fuel + 1, done => do
    match ← ask (.read 0 1) with
    | .ok "\n" => return (done.reverse, true)
    | .ok "\\" =>
      if isRaw then readLine isRaw fuel (⟨'\\', false⟩ :: done)
      else
        match ← ask (.read 0 1) with
        | .ok "\n" => readLine isRaw fuel done
        | .ok s =>
          match s.toList with
          | [c] => readLine isRaw fuel (⟨c, true⟩ :: done)
          | _ => return (done.reverse, false)
        | .error _ => return (done.reverse, false)
    | .ok s =>
      match s.toList with
      | ['\x00'] => readLine isRaw fuel done
      | [c] => readLine isRaw fuel (⟨c, false⟩ :: done)
      | _ => return (done.reverse, false)
    | .error _ => return (done.reverse, false)

/-- Splits a line into so many fields, of which the last one holds all that is left. -/
def lineFields (separators : List Char) : Nat → List Cell → List String
  | 0, _ => []
  | count + 1, line =>
    let isBlank (c : Cell) : Bool :=
      !c.isQuoted && separators.contains c.char &&
        (c.char == ' ' || c.char == '\t' || c.char == '\n')
    let isSeparator (c : Cell) : Bool := !c.isQuoted && separators.contains c.char
    let line := line.dropWhile isBlank
    if count = 0 then [textOfCells (lastField isBlank isSeparator line)]
    else
      let field := line.takeWhile (!isSeparator ·)
      let rest := (line.drop field.length).dropWhile isBlank
      let rest :=
        match rest with
        | c :: more => if isSeparator c then more else rest
        | [] => []
      textOfCells field :: lineFields separators count rest
where
  /-- What is left without blanks at its end, and without a single separator that ends it. -/
  lastField (isBlank isSeparator : Cell → Bool) (line : List Cell) : List Cell :=
    let trimmed := (line.reverse.dropWhile isBlank).reverse
    let first := trimmed.takeWhile (!isSeparator ·)
    let rest := (trimmed.drop first.length).dropWhile isBlank
    match rest with
    | [c] => if isSeparator c then first else trimmed
    | _ => trimmed

def read (arguments : List String) : Script Nat := do
  let (given, names) ← options "r" "p" arguments
  if names.isEmpty then fail "arg count"
  let (line, isWhole) ← readLine (given.any (·.1 == 'r')) Program.unbounded []
  let values := lineFields (← get).separators.toList names.length line
  for (name, value) in names.zip (values ++ List.replicate names.length "") do
    if !isName name then fail s!"{name}: bad variable name"
    assign name value false
  return if isWhole then 0 else 1

end BindingCoverage.Host.Shell.Builtin
