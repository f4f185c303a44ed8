import BindingCoverage.Host.Condition
import BindingCoverage.Host.Utility.Copying

/-!
# Programs that say things

Programs whose output comes from their arguments alone: `echo`, `printf`, `seq`, `yes` and others,
and those that say nothing but yes or no.
-/

namespace BindingCoverage.Host.Utility

def succeed : Routine := fun _ => return 0

def refuse : Routine := fun _ => return 1

/-! ## echo -/

/-- What stands after a backslash: the character, if both stand for one, and the rest. -/
def echoEscape? (s : List Char) : Option (Char × List Char) :=
  match s with
  | '0' :: rest => some (Format.octal rest)
  | '"' :: _ | [] => none
  | c :: rest =>
    if Format.isOctal c then some (Format.octal s)
    else ((Format.escaped? c).map (·, rest)).or (Format.richEscape? s)

/-- A text with its escapes; the flag says that it ends the output. -/
def echoText : Nat → List Char → List Char → List Char × Bool
  | 0, done, _ | _, done, [] => (done.reverse, false)
  | _ + 1, done, '\\' :: 'c' :: _ => (done.reverse, true)
  | fuel + 1, done, '\\' :: rest =>
    match echoEscape? rest with
    | some (c, rest) => echoText fuel (c :: done) rest
    | none => echoText fuel ('\\' :: done) rest
  | fuel + 1, done, c :: rest => echoText fuel (c :: done) rest

/-- The options of `echo`, which are words of a few letters alone. -/
def echoOptions (newline escapes : Bool) : List String → Bool × Bool × List String
  | [] => (newline, escapes, [])
  | a :: rest =>
    match a.toList with
    | '-' :: c :: more =>
      if (c :: more).all "neE".toList.contains then
        let escapes := (c :: more).foldl
          (fun e c => if c = 'e' then true else if c = 'E' then false else e)
          escapes
        echoOptions (newline && !(c :: more).contains 'n') escapes rest
      else (newline, escapes, a :: rest)
    | _ => (newline, escapes, a :: rest)

def echo : Routine := fun c => do
  let (newline, escapes, words) := echoOptions true false c.arguments
  let text := " ".intercalate words
  if escapes then
    let (text, isOver) := echoText (text.length + 1) [] text.toList
    c.print (String.ofList text ++ (if newline && !isOver then "\n" else ""))
  else c.print (text ++ (if newline then "\n" else ""))
  return 0

/-! ## printf -/

def printfDialect : Format.Dialect where
  isRich := true
  notNumeric text := s!"'{text}': expected a numeric value"
  notWhole text := s!"'{text}': value not completely converted"
  outOfRange text := s!"'{text}': {SystemError.numberText 34}"
  invalid text := s!"{text}: invalid conversion specification"
  missing text := s!"{text}: invalid conversion specification"

def printf : Routine := fun c => do
  let arguments := if c.arguments.head? = some "--" then c.arguments.drop 1 else c.arguments
  match arguments with
  | [] => do
    c.misused "missing operand"
    return 1
  | format :: arguments => do
    let result := Format.format printfDialect format arguments
    for complaint in result.complaints.reverse do c.complain complaint
    c.print result.text
    match result.failure, result.arguments with
    | some text, _ => do
      c.complain text
      return 1
    | none, extra :: _ => do
      if !result.isOver then
        c.complain s!"warning: ignoring excess arguments, starting with '{extra}'"
      return if result.complaints.isEmpty then 0 else 1
    | none, [] => return if result.complaints.isEmpty then 0 else 1

/-! ## yes -/

def yes : Routine := fun c => do
  let o ← c.options [] 1 false
  let line := (if o.operands.isEmpty then "y" else " ".intercalate o.operands) ++ "\n"
  let count := max 1 (Program.blockSize / line.length)
  let block := String.join (List.replicate count line)
  Program.loop () fun _ => do
    match ← Program.write 1 block with
    | .ok () => return .inl ()
    | .error e => do
      c.complain s!"standard output: {errorText e}"
      return .inr 1

/-! ## seq -/

/-- A decimal number: its digits as a whole number, and how many of them are decimals. -/
structure Decimal where
  digits : Int
  places : Nat
  /-- How long its text is before the point. -/
  width : Nat
  deriving DecidableEq, Repr

/-- A text with digits, perhaps a point and perhaps a power of ten. -/
def decimal? (text : String) : Option Decimal := do
  let cs := text.toList
  let (isNegative, cs) : Bool × List Char :=
    match cs with
    | '-' :: rest => (true, rest)
    | '+' :: rest => (false, rest)
    | cs => (false, cs)
  let whole := cs.takeWhile Char.isDigit
  let rest := cs.drop whole.length
  let (fraction, rest) : List Char × List Char :=
    match rest with
    | '.' :: more =>
      let digits := more.takeWhile Char.isDigit
      (digits, more.drop digits.length)
    | rest => ([], rest)
  if whole.isEmpty && fraction.isEmpty then none
  let power ←
    match rest with
    | [] => some 0
    | e :: more => if e = 'e' || e = 'E' then number? (some 10) (String.ofList more) else none
  let value : Int := valueIn 10 (whole ++ fraction)
  let value := if isNegative then -value else value
  let places : Int := fraction.length - power
  let width := (max 1 whole.length) + (if isNegative then 1 else 0)
  if 0 ≤ places then return ⟨value, places.toNat, width⟩
  else return ⟨value * (Nat.pow 10 (-places).toNat : Nat), 0, width + (-places).toNat⟩

namespace Decimal

/-- The digits when so many are decimals, which are not fewer than there are. -/
def scaled (d : Decimal) (places : Nat) : Int := d.digits * (Nat.pow 10 (places - d.places) : Nat)

end Decimal

/-- A number with decimals, with zeros in front up to a width. -/
def decimalText (places width : Nat) (n : Int) : String :=
  let digits := String.ofList (Nat.toDigits 10 n.natAbs)
  let digits := Format.repeated (places + 1 - digits.length) '0' ++ digits
  let cs := digits.toList
  let whole := String.ofList (cs.take (cs.length - places))
  let fraction := String.ofList (cs.drop (cs.length - places))
  let sign := if n < 0 then "-" else ""
  let body := if places = 0 then whole else whole ++ "." ++ fraction
  sign ++ Format.repeated (width - sign.length - body.length) '0' ++ body

/-- A series of numbers. -/
structure Series where
  places : Nat
  step : Int
  last : Option Int
  width : Nat
  format : Option (List Format.Directive)
  separator : String

namespace Series

def holds (s : Series) (n : Int) : Bool :=
  match s.last with
  | none => true
  | some last => if 0 ≤ s.step then n ≤ last else last ≤ n

/-- A number of the series as it is written. -/
def written (s : Series) (n : Int) : String :=
  match s.format with
  | none => decimalText s.places s.width n
  | some directives =>
    let state : Format.State := { arguments := [decimalText s.places 0 n] }
    (Format.once printfDialect directives state).text

/-- The next numbers, so many of them at most, and what comes after them. -/
def block (s : Series) : Nat → Int → List String → List String × Option Int
  | 0, n, done => (done.reverse, if s.holds n then some n else none)
  | fuel + 1, n, done =>
    if s.holds n then s.block fuel (n + s.step) (s.written n :: done) else (done.reverse, none)

end Series

/-- A format of `seq`, or what is wrong with it. -/
def seriesFormat (text : String) : Except String (List Format.Directive) :=
  let all := Format.directives true text
  let conversions := all.filterMap fun d =>
    match d with
    | .convert c => some c
    | _ => none
  match conversions with
  | [] => .error s!"format '{text}' has no % directive"
  | [c] =>
    if "efgEFG".toList.contains c.kind then .ok all
    else .error s!"format '{text}' has unknown %{c.kind} directive"
  | _ => .error s!"format '{text}' has too many % directives"

/-- The arguments of `seq`; a negative number is no option. -/
def seriesArguments : List String → List String → List String × List String
  | done, [] => (done.reverse, [])
  | done, "--" :: rest => (done.reverse, rest)
  | done, a :: rest =>
    match a.toList with
    | '-' :: c :: _ =>
      if c.isDigit || c = '.' then (done.reverse, a :: rest)
      else if a = "-s" || a = "-f" then
        match rest with
        | [] => ((a :: done).reverse, [])
        | value :: rest => seriesArguments (value :: a :: done) rest
      else seriesArguments (a :: done) rest
    | _ => (done.reverse, a :: rest)

def seq : Routine := fun c => do
  let (front, operands) := seriesArguments [] c.arguments
  let o ← ({ c with arguments := front } : Call).options [
    { letter := 'w', names := ["equal-width"] },
    { letter := 's', takes := .argument, names := ["separator"] },
    { letter := 'f', takes := .argument, names := ["format"] }] 1 true
  let operands := o.operands ++ operands
  let format ←
    match o.value? 'f' with
    | none => pure none
    | some text =>
      match seriesFormat text with
      | .ok f => pure (some f)
      | .error text => do
        c.complain text
        Program.exit 1
  match operands with
  | [] => do
    c.misused "missing operand"
    return 1
  | _ :: _ :: _ :: extra :: _ => do
    c.misused s!"extra operand '{extra}'"
    return 1
  | _ => do
    let mut values : List (Option Decimal) := []
    for text in operands do
      match decimal? text with
      | some d => values := values ++ [some d]
      | none =>
        if text.toLower = "inf" || text.toLower = "infinity" then values := values ++ [none]
        else
          c.misused s!"invalid floating point argument: '{text}'"
          Program.exit 1
    let one : Decimal := ⟨1, 0, 1⟩
    let (first, step, last) : Decimal × Decimal × Option Decimal :=
      match values with
      | [last] => (one, one, last)
      | [first, last] => (first.getD one, one, last)
      | [first, step, last] => (first.getD one, step.getD one, last)
      | _ => (one, one, none)
    if step.digits = 0 then
      let text := (operands[1]?).getD ""
      c.misused s!"invalid Zero increment value: '{text}'"
      Program.exit 1
    let shown := max first.places step.places
    let places := max shown ((last.map (·.places)).getD 0)
    let point (d : Decimal) : Nat := d.width + (if shown = 0 then 0 else shown + 1)
    let width := if o.has 'w' then max (point first) ((last.map point).getD 0) else 0
    let factor : Int := (Nat.pow 10 (places - shown) : Nat)
    let bound := last.map fun d =>
      let n := d.scaled places
      if 0 ≤ step.digits then Int.fdiv n factor else -(Int.fdiv (-n) factor)
    let series : Series := {
      places := shown
      step := step.scaled shown
      last := bound
      width
      format
      separator := (o.value? 's').getD "\n" }
    let start := first.scaled shown
    if !series.holds start then return 0
    Program.loop (start, true) fun (n, isFirst) => do
      let (texts, next) := series.block 400 n []
      let text := series.separator.intercalate texts
      let text := if isFirst then text else series.separator ++ text
      match next with
      | none => do
        c.print (text ++ "\n")
        return .inr 0
      | some n => do
        c.print text
        return .inl (n, false)

/-! ## factor -/

/-- The prime factors of a number from a divisor on. -/
def factorsFrom : Nat → Nat → Nat → List Nat
  | 0, _, n => if n ≤ 1 then [] else [n]
  | fuel + 1, d, n =>
    if n ≤ 1 then []
    else if n < d * d then [n]
    else if n % d = 0 then d :: factorsFrom fuel d (n / d)
    else factorsFrom fuel (if d = 2 then 3 else d + 2) n

def factorRow (n : Nat) : String :=
  s!"{n}:" ++ String.join ((factorsFrom 4000000 2 n).map fun p => s!" {p}") ++ "\n"

def factor : Routine := fun c => do
  let o ← c.options [] 1 false
  let words ←
    if o.operands.isEmpty then do
      let text := (← Program.readAll 0).toOption.getD ""
      pure ((text.toList.splitBy fun a b => isSpace a == isSpace b).filter
        (fun w => !w.any isSpace) |>.map String.ofList)
    else pure o.operands
  let mut status := 0
  for text in words do
    match natural? text with
    | some n => c.print (factorRow n)
    | none =>
      c.complain s!"'{text}' is not a valid positive integer"
      status := 1
  return status

/-! ## test -/

/-- What `test` says is wrong with its arguments. -/
def conditionFault (arguments : List String) (text : String) : String :=
  let illegal := "Illegal number: "
  if text.startsWith illegal then
    let number := String.ofList (text.toList.drop illegal.length)
    s!"invalid integer '{number}'"
  else
    match arguments with
    | [_, operator, _] => s!"'{operator}': binary operator expected"
    | [operator, _] => s!"'{operator}': unary operator expected"
    | _ =>
      let last := arguments.getLast?.getD ""
      if text.endsWith "unexpected operator" then s!"extra argument '{last}'"
      else s!"missing argument after '{last}'"

def conditionOf (c : Call) (arguments : List String) : Program Nat := do
  let files ← Program.ask .files
  match Condition.holds files arguments with
  | .ok holds => return if holds then 0 else 1
  | .error text => do
    c.complain (conditionFault arguments text)
    return 2

def test : Routine := fun c => conditionOf c c.arguments

def bracket : Routine := fun c =>
  match c.arguments.getLast? with
  | some "]" => conditionOf c c.arguments.dropLast
  | _ => do
    c.complain "missing ']'"
    return 2

end BindingCoverage.Host.Utility
