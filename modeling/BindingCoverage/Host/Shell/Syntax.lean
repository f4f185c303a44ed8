/-!
# Commands

The language of the shell, as trees. A word is a list of parts; what a part expands to may be split
into fields and may be a pattern for names of files, unless the part is quoted.

All texts are octet strings. A here-document is known by its number, because its text comes after
the line on which it is asked for.
-/

namespace BindingCoverage.Host.Shell

/-- What is done with the value of a parameter. -/
inductive Operator where
  | value
  | length
  /-- Another word for a parameter without a value: `-`. -/
  | otherwise
  /-- Another word for a parameter with a value: `+`. -/
  | instead
  /-- There has to be a value: `?`. -/
  | demand
  /-- The parameter gets a value if it has none: `=`. -/
  | supply
  /-- Without a match of a pattern at its start: `#` and `##`. -/
  | dropStart (longest : Bool)
  /-- Without a match of a pattern at its end: `%` and `%%`. -/
  | dropEnd (longest : Bool)
  | unknown
  deriving DecidableEq, Repr

/-- How a redirection opens a file. -/
inductive Access where
  | read
  | write
  /-- Also if files that are there are not to be overwritten. -/
  | overwrite
  | append
  | readAndWrite
  deriving DecidableEq, Repr

mutual

inductive Part where
  | plain (text : String)
  /-- Text that is quoted in whatever way. -/
  | literal (text : String)
  /-- What stands between double quotes. -/
  | quoted (parts : List Part)
  /-- A parameter. With a colon, an empty value counts as none. -/
  | parameter (name : String) (operator : Operator) (colon : Bool) (operand : List Part)
  | substitution (command : Command)
  | arithmetic (expression : List Part)

inductive Redirect where
  | file (descriptor : Nat) (access : Access) (target : List Part)
  /-- The descriptor becomes a copy of another one, or is closed. -/
  | copy (descriptor : Nat) (source : List Part)
  | document (descriptor : Nat) (number : Nat)

/-- Commands. Those that may fail by themselves know the number of their line. -/
inductive Command where
  | nothing
  | simple (line : Nat) (assignments : List (String × List Part)) (words : List (List Part))
      (redirects : List Redirect)
  | pipeline (commands : List Command) (inBackground : Bool)
  | redirected (line : Nat) (command : Command) (redirects : List Redirect)
  | background (line : Nat) (command : Command) (redirects : List Redirect)
  | subshell (line : Nat) (command : Command) (redirects : List Redirect)
  | both (first second : Command)
  | either (first second : Command)
  | sequence (first second : Command)
  | negated (command : Command)
  | conditional (test first second : Command)
  /-- A loop that goes on while its test succeeds, or until it does. -/
  | loop (untilSuccess : Bool) (test body : Command)
  | each (line : Nat) (name : String) (words : List (List Part)) (body : Command)
  | choice (line : Nat) (word : List Part) (arms : List (List (List Part) × Command))
  | function (line : Nat) (name : String) (body : Command)

end

abbrev Word := List Part

instance : Inhabited Command := ⟨.nothing⟩

instance : Inhabited Part := ⟨.plain ""⟩

/-- Whether there is nothing to do. -/
def Command.isNothing : Command → Bool
  | .nothing => true
  | _ => false

/-! ## Names -/

def startsName (c : Char) : Bool := c.isAlpha || c == '_'

def continuesName (c : Char) : Bool := c.isAlphanum || c == '_'

/-- Whether a text is the name of a variable. -/
def isName (s : String) : Bool :=
  match s.toList with
  | [] => false
  | c :: rest => startsName c && rest.all continuesName

/-- The parameters that are no variables and have no numbers. -/
def isSpecial (c : Char) : Bool := "*@#?-$!".toList.contains c

/-- The name before an equals sign at the start of a text, and what comes after the sign. -/
def assigned? (s : List Char) : Option (String × List Char) :=
  match s with
  | c :: _ =>
    if startsName c then
      let name := s.takeWhile continuesName
      match s.drop name.length with
      | '=' :: value => some (String.ofList name, value)
      | _ => none
    else none
  | [] => none

/-- The assignment that a word is, if it is one. -/
def Word.assignment? (w : Word) : Option (String × Word) :=
  match w with
  | .plain s :: rest =>
    (assigned? s.toList).map fun (name, value) =>
      (name, if value.isEmpty then rest else .plain (String.ofList value) :: rest)
  | _ => none

end BindingCoverage.Host.Shell
