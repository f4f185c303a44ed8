import BindingCoverage.Host.Number
import BindingCoverage.Host.Program
import BindingCoverage.Text.Octets

/-!
# Utilities

What the installed programs have in common: how they take their options apart, how they complain,
and how they read what they are given, one piece after the other.
-/

namespace BindingCoverage.Host.Utility

/-- How a program was started. -/
structure Call where
  /-- The name by which it was called. -/
  name : String
  arguments : List String
  environment : Environment

/-- A program gives its exit code. -/
abbrev Routine := Call → Program Nat

/-! ## Output -/

/-- Says something. -/
def say (text : String) : Program Unit := discard (Program.write 2 text)

/-- The text of a system error. -/
def errorText : SystemError → String
  | .number n => SystemError.numberText n
  | e => e.message

namespace Call

/-- Says what is wrong. -/
def complain (c : Call) (text : String) : Program Unit := say s!"{c.name}: {text}\n"

/-- Says what is wrong with the arguments. -/
def misused (c : Call) (text : String) : Program Unit :=
  say s!"{c.name}: {text}\nTry '{c.name} --help' for more information.\n"

/-- Prints a text; ends the program if that cannot be done. -/
def print (c : Call) (text : String) : Program Unit := do
  match ← Program.write 1 text with
  | .ok () => return
  | .error e => do
    c.complain s!"write error: {errorText e}"
    Program.exit 1

end Call

/-! ## Options -/

inductive Takes where
  | nothing
  | argument
  /-- An argument that may be missing. -/
  | maybe
  deriving DecidableEq, Repr

/-- An option with its letter and its long names. A letter that is no octet stands for an option
that has only long names. -/
structure Known where
  letter : Char
  takes : Takes := .nothing
  names : List String := []

structure Options where
  given : List (Char × Option String) := []
  operands : List String := []

namespace Options

def has (o : Options) (letter : Char) : Bool := o.given.any (·.1 == letter)

/-- The argument of the last option with a letter. -/
def value? (o : Options) (letter : Char) : Option String :=
  (o.given.reverse.find? (·.1 == letter)).bind (·.2)

/-- The last of some options that was given. -/
def lastOf? (o : Options) (letters : List Char) : Option Char :=
  (o.given.reverse.find? fun (c, _) => letters.contains c).map (·.1)

/-- The letters of an argument after its hyphen. -/
def cluster (known : List Known) : List Char → List String →
    Except String (List (Char × Option String) × List String)
  | [], rest => .ok ([], rest)
  | c :: more, rest =>
    match known.find? (·.letter == c) with
    | none => .error s!"invalid option -- '{c}'"
    | some k =>
      match k.takes with
      | .nothing => do
        let (given, rest) ← cluster known more rest
        return ((c, none) :: given, rest)
      | .maybe => .ok ([(c, if more.isEmpty then none else some (String.ofList more))], rest)
      | .argument =>
        if more.isEmpty then
          match rest with
          | [] => .error s!"option requires an argument -- '{c}'"
          | a :: rest => .ok ([(c, some a)], rest)
        else .ok ([(c, some (String.ofList more))], rest)

/-- A long option, whose name may be cut short. -/
def long (known : List Known) (text : String) (rest : List String) :
    Except String ((Char × Option String) × List String) :=
  let name := String.ofList (text.toList.takeWhile (· != '='))
  let value :=
    if name.length < text.length then some (String.ofList (text.toList.drop (name.length + 1)))
    else none
  let exact := known.find? fun k => k.names.contains name
  let begun := known.filter fun k => k.names.any (·.startsWith name)
  match exact, begun with
  | none, [] => .error s!"unrecognized option '--{text}'"
  | none, _ :: _ :: _ => .error s!"option '--{text}' is ambiguous"
  | some k, _ | none, [k] =>
    let full := (k.names.find? (·.startsWith name)).getD name
    match k.takes, value with
    | .nothing, some _ => .error s!"option '--{full}' doesn't allow an argument"
    | .nothing, none => .ok ((k.letter, none), rest)
    | .maybe, value => .ok ((k.letter, value), rest)
    | .argument, some v => .ok ((k.letter, some v), rest)
    | .argument, none =>
      match rest with
      | [] => .error s!"option '--{full}' requires an argument"
      | a :: rest => .ok ((k.letter, some a), rest)

/-- Takes arguments apart. Options may stand after operands unless that is not wanted. -/
def parseFrom (known : List Known) (isStrict : Bool) : Nat → List String → Options →
    Except String Options
  | 0, _, o => .ok o
  | fuel + 1, arguments, o =>
    match arguments with
    | [] => .ok o
    | a :: rest =>
      match a.toList with
      | ['-', '-'] => .ok { o with operands := o.operands ++ rest }
      | '-' :: '-' :: name => do
        let (one, rest) ← long known (String.ofList name) rest
        parseFrom known isStrict fuel rest { o with given := o.given ++ [one] }
      | '-' :: c :: more => do
        let (given, rest) ← cluster known (c :: more) rest
        parseFrom known isStrict fuel rest { o with given := o.given ++ given }
      | _ =>
        if isStrict then .ok { o with operands := o.operands ++ a :: rest }
        else parseFrom known isStrict fuel rest { o with operands := o.operands ++ [a] }

def parse (known : List Known) (isStrict : Bool) (arguments : List String) :
    Except String Options :=
  parseFrom known isStrict (arguments.length + 1) arguments {}

end Options

/-- Goes on with the options of a call; ends the program with a status if they are wrong. -/
def Call.options (c : Call) (known : List Known) (status : Nat) (isStrict : Bool) :
    Program Options := do
  match Options.parse known isStrict c.arguments with
  | .ok o => return o
  | .error text => do
    c.misused text
    Program.exit status

/-! ## Input -/

/-- Opens a file to read from, or takes what the program is given to read. -/
def openInput (path : String) : Program (Except SystemError Nat) := do
  if path = "-" then return .ok 0 else Program.ask (.openFile path { reads := true })

def closeInput (descriptor : Nat) : Program Unit := do
  if descriptor ≠ 0 then discard (Program.ask (.close descriptor))

/-- Reads piece after piece as long as a step wants more. The second part of the result says why
the last piece could not be read, if that was so. -/
def forPieces {σ : Type} (descriptor : Nat) (start : σ) (step : σ → String → Program (σ × Bool)) :
    Program (σ × Option SystemError) :=
  Program.loop start fun s => do
    match ← Program.read descriptor with
    | .error e => return .inr (s, some e)
    | .ok "" => return .inr (s, none)
    | .ok piece => do
      let (s, wantsMore) ← step s piece
      return if wantsMore then .inl s else .inr (s, none)

/-- Everything in a file, or why it cannot be read; the flag says that it could be opened. -/
def readInput (path : String) : Program (Except (Bool × SystemError) String) := do
  match ← openInput path with
  | .error e => return .error (false, e)
  | .ok d => do
    let text ← Program.readAll d
    closeInput d
    return text.mapError fun e => (true, e)

/-! ## Lines -/

/-- The parts of a text between separators. -/
def splitAt (separator : Char) (current : List Char) : List Char → List (List Char)
  | [] => [current.reverse]
  | c :: rest =>
    if c = separator then current.reverse :: splitAt separator [] rest
    else splitAt separator (c :: current) rest

/-- A line, and whether it has an end. -/
structure Line where
  text : List Char
  hasEnd : Bool := true
  deriving DecidableEq, Repr

namespace Line

def length (l : Line) : Nat := l.text.length + (if l.hasEnd then 1 else 0)

/-- The line as it was read. -/
def written (l : Line) : String := String.ofList (if l.hasEnd then l.text ++ ['\n'] else l.text)

/-- The line with an end. -/
def whole (l : Line) : String := String.ofList (l.text ++ ['\n'])

end Line

/-- The complete lines of a text, and what is left after them. The characters of the line under way
come last first. -/
def splitLines (current : List Char) (done : List (List Char)) : List Char →
    List (List Char) × List Char
  | [] => (done.reverse, current)
  | '\n' :: rest => splitLines [] (current.reverse :: done) rest
  | c :: rest => splitLines (c :: current) done rest

/-- The lines of a text. -/
def linesOf (s : String) : List Line :=
  let (lines, rest) := splitLines [] [] s.toList
  lines.map (⟨·, true⟩) ++ (if rest.isEmpty then [] else [⟨rest.reverse, false⟩])

/-- What becomes of lines that are read one after the other. -/
structure LineFilter (σ : Type) where
  /-- The output for a line, and whether more lines are wanted. -/
  line : σ → Line → σ × String × Bool

namespace LineFilter

/-- The output for several lines. -/
def lines {σ : Type} (f : LineFilter σ) (s : σ) (output : List String) :
    List Line → σ × String × Bool
  | [] => (s, String.join output.reverse, true)
  | l :: rest =>
    let (s, text, wantsMore) := f.line s l
    if wantsMore then f.lines s (text :: output) rest
    else (s, String.join (text :: output).reverse, false)

/-- Runs over what can be read from a descriptor; the flag of the result says that more is
wanted. -/
def run {σ : Type} (c : Call) (f : LineFilter σ) (descriptor : Nat) (start : σ) :
    Program (σ × Bool × Option SystemError) := do
  let ((s, rest, wantsMore), e) ← forPieces descriptor (start, ([] : List Char), true)
    fun (s, rest, _) piece => do
      let (complete, rest) := splitLines rest [] piece.toList
      let (s, output, wantsMore) := f.lines s [] (complete.map (⟨·, true⟩))
      c.print output
      return ((s, rest, wantsMore), wantsMore)
  if wantsMore && !rest.isEmpty then
    let (s, output, wantsMore) := f.line s ⟨rest.reverse, false⟩
    c.print output
    return (s, wantsMore, e)
  else return (s, wantsMore, e)

end LineFilter

end BindingCoverage.Host.Utility
