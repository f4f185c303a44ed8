import BindingCoverage.Host.Shell.Expansion
import BindingCoverage.Host.Shell.Redirection

/-!
# Builtin commands

What all commands have in common that the shell carries out itself: their options, and the ways in
which they print and complain.
-/

namespace BindingCoverage.Host.Shell

/-- A builtin command: it is given its arguments and gives its status. -/
abbrev Builtin := Runner → List String → Script Nat

namespace Script

/-- Prints a text. -/
def print (text : String) : Script Unit := do
  match ← lift (Program.write 1 text) with
  | .ok () => return
  | .error _ => modify fun s => { s with hasFailedOutput := true }

/-- Letters of options with their arguments. -/
abbrev Given := List (Char × String)

/-- The options at the start of arguments, of which those in `withArgument` take one. -/
def optionsFrom (letters withArgument : List Char) : Nat → List String → Given →
    Script (Given × List String)
  | 0, arguments, given => return (given.reverse, arguments)
  | fuel + 1, arguments, given => do
    match arguments with
    | [] => return (given.reverse, [])
    | a :: rest =>
      match a.toList with
      | ['-', '-'] => return (given.reverse, rest)
      | '-' :: c :: more => do
        let (given, rest) ← cluster (c :: more) rest given
        optionsFrom letters withArgument fuel rest given
      | _ => return (given.reverse, a :: rest)
where
  /-- The letters of one argument. -/
  cluster : List Char → List String → Given → Script (Given × List String)
    | [], rest, given => return (given, rest)
    | c :: more, rest, given => do
      if withArgument.contains c then
        if more.isEmpty then
          match rest with
          | [] => fail s!"No arg for -{c} option"
          | a :: rest => return ((c, a) :: given, rest)
        else return ((c, String.ofList more) :: given, rest)
      else if letters.contains c then cluster more rest ((c, "") :: given)
      else fail s!"Illegal option -{c}"

def options (letters withArgument : String) (arguments : List String) :
    Script (Given × List String) :=
  optionsFrom letters.toList withArgument.toList (arguments.length + 1) arguments []

/-- A natural number that is an argument. -/
def number (text : String) : Script Nat := do
  match number? (some 10) text with
  | some n => if 0 ≤ n && n ≤ 2147483647 then return n.toNat else bad
  | none => bad
where
  bad : Script Nat := fail s!"Illegal number: {text}"

/-- A text in single quotes, in pieces if it has some of these itself. -/
def quotedText (s : String) : String :=
  go s.toList.length s.toList
where
  go : Nat → List Char → String
    | 0, cs => "'" ++ String.ofList cs ++ "'"
    | fuel + 1, cs =>
      let plain := cs.takeWhile (· != '\'')
      let rest := cs.drop plain.length
      let quotes := rest.takeWhile (· == '\'')
      let after := rest.drop quotes.length
      let first :=
        if plain.isEmpty && !quotes.isEmpty then "" else "'" ++ String.ofList plain ++ "'"
      if quotes.isEmpty then first
      else
        first ++ "\"" ++ String.ofList quotes ++ "\"" ++
          (if after.isEmpty then "" else go fuel after)

/-- The assignment that an argument is: its name, and its value if it has one. -/
def argumentAssignment (a : String) : String × Option String :=
  let name := a.toList.takeWhile (· != '=')
  let value := if name.length < a.length then some (String.ofList (a.toList.drop (name.length + 1)))
    else none
  (String.ofList name, value)

/-- The signal that a text names. -/
def signal? (least : Nat) (text : String) : Option Nat :=
  match natural? text with
  | some n => if n ≤ Signal.greatest then some n else none
  | none =>
    let name := text.toUpper
    if name = "EXIT" && least = 0 then some 0 else Signal.ofShortName? name

def signalName (signal : Nat) : String :=
  if signal = 0 then "EXIT"
  else if signal = 16 then "16"
  else
    match Signal.shortName? signal with
    | some name => name
    | none =>
      if signal = 34 then "RTMIN" else if signal = 64 then "RTMAX"
      else if 34 < signal && signal ≤ 49 then s!"RTMIN+{signal - 34}"
      else if 49 < signal && signal < 64 then s!"RTMAX-{64 - signal}"
      else toString signal

end Script

end BindingCoverage.Host.Shell
