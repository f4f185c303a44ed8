import BindingCoverage.Host.Program
import BindingCoverage.Host.Shell.Reader

/-!
# The state of a shell

What a shell knows: its variables and parameters, the functions, the options that are set, what it
does when signals come, and which children it has started. A `Script` is a program with this state.
It may stop before its end; what it has done up to there stays done.
-/

namespace BindingCoverage.Host.Shell

structure Variable where
  /-- A variable may be marked before it has a value. -/
  value : Option String
  isExported : Bool := false
  isReadOnly : Bool := false
  deriving DecidableEq, Repr

/-- A child that was started, or the several ones of a pipeline, each with its end. -/
structure Job where
  number : Nat
  members : List (Nat × Option ExitStatus)
  /-- Whether somebody has waited for the end. -/
  isKnown : Bool := false
  deriving DecidableEq, Repr

structure Function where
  line : Nat
  body : Command

structure State where
  /-- The name by which the shell or its script was called. -/
  name : String
  /-- The number of the process that began. -/
  number : Nat
  parent : Nat
  vars : List (String × Variable)
  parameters : List String
  /-- The letters of the options that are set. -/
  options : List Char := []
  functions : List (String × Function) := []
  /-- The names that stand for texts of commands. -/
  aliases : List (String × String) := []
  documents : List (Nat × Word) := []
  nextDocument : Nat := 0
  /-- What is done when signals come, by their numbers; nothing is done for an empty text. The
  number zero is the end of the shell. -/
  traps : List (Nat × String) := []
  /-- The status of the last command. -/
  status : Nat := 0
  /-- The status before the action for a signal began. -/
  statusBefore : Option Nat := none
  /-- The status of the last substitution in a command. -/
  substituted : Nat := 0
  /-- The last process that was started in the background. -/
  background : Option Nat := none
  /-- The line of the command that is carried out. -/
  line : Nat := 1
  /-- The builtin command that is carried out. -/
  builtin : Option String := none
  /-- The working directory, by the name under which it was entered. -/
  directory : String
  /-- The rights that new files do not get. -/
  mask : Nat := 18
  /-- The limits that were set, by their letters. -/
  limits : List (Char × String) := []
  /-- How many loops are around the command. -/
  loops : Nat := 0
  /-- How many functions, and files that are read, are around the command. -/
  calls : Nat := 0
  /-- What the variables were that are local to the functions around the command, and to commands
  with assignments of their own. -/
  frames : List (List (String × Option Variable)) := []
  jobs : List Job := []
  /-- The signals that were caught and for which nothing was done yet. -/
  caught : List Nat := []
  /-- Where `getopts` goes on inside an argument. -/
  optionOffset : Option Nat := none
  /-- Whether the builtin command could not write what it had to. -/
  hasFailedOutput : Bool := false
  /-- Whether the prompt of traced commands is being expanded. -/
  isTracing : Bool := false

/-- What stops a script before its end. -/
inductive Stop where
  /-- The shell ends. -/
  | exit (status : Nat)
  /-- Something failed, and it was said what. -/
  | failure
  /-- Loops are left. -/
  | leave (levels : Nat)
  /-- Loops go on with their next round. -/
  | again (levels : Nat)
  /-- A function or a file that is read is left. -/
  | return (status : Nat)
  deriving DecidableEq, Repr

abbrev Script := ExceptT Stop (StateT State Program)

/-- How a command is carried out. -/
structure Mode where
  /-- Whether somebody looks at the status, so that it cannot end the shell. -/
  isTested : Bool := false
  /-- Whether the shell has nothing to do after it. -/
  isLast : Bool := false
  deriving DecidableEq, Repr

/-- How commands are carried out. It is given to everything that needs it. -/
abbrev Runner := Mode → Command → Script Nat

namespace State

/-! ## Variables -/

def binding? (s : State) (name : String) : Option Variable :=
  (s.vars.find? (·.1 == name)).map (·.2)

def value? (s : State) (name : String) : Option String := (s.binding? name).bind (·.value)

/-- Puts a variable in the place that it has already, or at the end. -/
def withVariable (s : State) (name : String) (v : Variable) : State :=
  { s with
    vars :=
      if s.vars.any (·.1 == name) then
        s.vars.map fun (n, old) => if n = name then (n, v) else (n, old)
      else s.vars ++ [(name, v)] }

def withoutVariable (s : State) (name : String) : State :=
  { s with vars := s.vars.filter (·.1 != name) }

def hasOption (s : State) (letter : Char) : Bool := s.options.contains letter

/-- What a program is given that the shell starts. -/
def environment (s : State) : Environment :=
  s.vars.filterMap fun (name, v) => if v.isExported then v.value.map (name, ·) else none

/-- The characters that separate fields. -/
def separators (s : State) : String := (s.value? "IFS").getD " \t\n"

def trap? (s : State) (signal : Nat) : Option String :=
  (s.traps.find? (·.1 == signal)).map (·.2)

/-- Whether anything is done when some signal comes, or at the end. -/
def hasTraps (s : State) : Bool := s.traps.any fun (_, action) => !action.isEmpty

/-- The letters of the options, of which the last comes first where they are shown. -/
def optionOrder : List Char := "efIimnsxvVECabu".toList

/-- The value of a parameter that is no variable. -/
def special? (s : State) (c : Char) : Option String :=
  match c with
  | '#' => some (toString s.parameters.length)
  | '?' => some (toString s.status)
  | '$' => some (toString s.number)
  | '!' => s.background.map toString
  | '-' => some (String.ofList (optionOrder.reverse.filter s.options.contains))
  | _ => none

/-- The parameter with a number; zero is the name of the script. -/
def positional? (s : State) (n : Nat) : Option String :=
  if n = 0 then some s.name else s.parameters[n - 1]?

end State

namespace Script

def lift {α : Type} (p : Program α) : Script α :=
  (StateT.lift p : StateT State Program α)

def ask (r : Request) : Script r.Reply := lift (Program.ask r)

/-! ## Messages -/

/-- Says something without any ado. -/
def say (text : String) : Script Unit := discard (lift (Program.write 2 text))

/-- Says what is wrong, and where. -/
def warn (text : String) : Script Unit := do
  let s ← get
  let command := match s.builtin with
    | some name => s!"{name}: "
    | none => ""
  say s!"{s.name}: {s.line}: {command}{text}\n"

/-- Fails with a status. -/
def failWith {α : Type} (status : Nat) (text : String) : Script α := do
  warn text
  modify fun s => { s with status }
  throw .failure

/-- Fails. -/
def fail {α : Type} (text : String) : Script α := failWith 2 text

/-- Carries out an action, after which some of the state is as before in any case. -/
def restoring {α : Type} (restore : State → State → State) (action : Script α) : Script α := do
  let before ← get
  try
    let a ← action
    modify (restore before)
    return a
  catch stop =>
    modify (restore before)
    throw stop

/-! ## Variables -/

/-- Sets a variable that may be set. -/
def assign (name value : String) (isExported : Bool) : Script Unit := do
  let s ← get
  match s.binding? name with
  | some v =>
    if v.isReadOnly then fail s!"{name}: is read only"
    else
      let isExported := v.isExported || isExported || s.hasOption 'a'
      set (s.withVariable name ⟨some value, isExported, false⟩)
  | none => set (s.withVariable name ⟨some value, isExported || s.hasOption 'a', false⟩)
  if name = "OPTIND" then modify fun s => { s with optionOffset := none }

/-- Remembers what a variable is, to be put back at the end of the innermost frame. -/
def makeLocal (name : String) : Script Unit := modify fun s =>
  match s.frames with
  | frame :: rest =>
    if frame.any (·.1 == name) then s
    else { s with frames := ((name, s.binding? name) :: frame) :: rest }
  | [] => s

/-- Puts back the variables of a frame. -/
def restoreFrame (frame : List (String × Option Variable)) (s : State) : State :=
  frame.foldl (fun s (name, v) =>
    match v with
    | some v => s.withVariable name v
    | none => s.withoutVariable name) s

/-- Puts back the variables of all frames but so many. -/
def popFrames (depth : Nat) (s : State) : State :=
  let count := s.frames.length - depth
  restoreFrame (s.frames.take count).flatten { s with frames := s.frames.drop count }

/-- Carries out an action with local variables of its own. -/
def withFrame {α : Type} (action : Script α) : Script α :=
  restoring (fun before after => popFrames before.frames.length after) do
    modify fun s => { s with frames := [] :: s.frames }
    action

end Script

end BindingCoverage.Host.Shell
