import BindingCoverage.Host.Shell.Evaluation

/-!
# Starting a shell

A shell reads its commands from an argument, from a file, or from what it is given to read.
-/

namespace BindingCoverage.Host.Shell

open Script

/-- What the first arguments of a shell say. -/
structure Invocation where
  /-- Whether the commands are an argument. -/
  hasText : Bool := false
  rest : List String

/-- The letters of one argument with options. -/
def optionLetters (isOn : Bool) : List Char → Invocation → Script Invocation
  | [], i => return i
  | 'c' :: more, i => optionLetters isOn more { i with hasText := true }
  | 'l' :: more, i => optionLetters isOn more i
  | 'o' :: more, i => do
    match i.rest with
    | name :: rest => do
      Builtin.setNamedOption isOn name
      optionLetters isOn more { i with rest }
    | [] => do
      Builtin.printOptions isOn
      optionLetters isOn more i
  | c :: more, i => do
    if Builtin.optionNames.any (·.2 == some c) then
      Builtin.setOption isOn c
      optionLetters isOn more i
    else fail s!"Illegal option -{c}"

/-- The options of a shell. -/
def invocation : Nat → Invocation → Script Invocation
  | 0, i => return i
  | fuel + 1, i => do
    match i.rest with
    | [] => return i
    | a :: rest =>
      match a.toList with
      | ['-'] | ['-', '-'] => return { i with rest }
      | '-' :: letters => do invocation fuel (← optionLetters true letters { i with rest })
      | '+' :: letters => do invocation fuel (← optionLetters false letters { i with rest })
      | _ => return i

/-- Carries out a file. -/
def runFile (run : Runner) (path : String) : Script Nat := do
  match ← ask (.openFile path { reads := true }) with
  | .error e => fail s!"cannot open {path}: {errorText .opening e}"
  | .ok d => do
    let text ← lift (Program.readAll d)
    discard (ask (.close d))
    match text with
    | .ok text => do
      modify fun s => { s with name := path }
      runText run {} text
    | .error _ => return 0

/-- All that a shell does. -/
def main (run : Runner) (arguments : List String) : Script Nat := do
  let i ← invocation (arguments.length + 1) { rest := arguments }
  match i.rest with
  | [] => do
    if i.hasText then fail "-c requires an argument"
    Builtin.setOption true 's'
    let text ← lift (Program.readAll 0)
    runText run {} (text.toOption.getD "")
  | first :: rest => do
    if i.hasText then
      match rest with
      | [] => pure ()
      | name :: parameters => modify fun s => { s with name, parameters }
      runText run { isLast := true } first
    else if (← get).hasOption 's' then
      modify fun s => { s with parameters := first :: rest }
      let text ← lift (Program.readAll 0)
      runText run {} (text.toOption.getD "")
    else do
      modify fun s => { s with parameters := rest }
      runFile run first

/-- The variables that a shell sets by itself, under those that it is given. -/
def initialVariables (identity : Identity) (working : String) (environment : Environment) :
    List (String × Variable) :=
  let given := environment.filter fun (name, _) => isName name
  let own (name value : String) (isExported : Bool) : List (String × Variable) :=
    [(name, ⟨some value, isExported, false⟩)]
  let forced := own "IFS" " \t\n" false ++ own "OPTIND" "1" false ++
    own "PPID" (toString identity.parent) false ++ own "PWD" working true
  let defaults := own "PATH" SearchPath.standard false ++ own "PS1" "# " false ++
    own "PS2" "> " false ++ own "PS4" "+ " false
  let others := given.filter fun (name, _) => !forced.any (·.1 == name)
  let imported := others.map fun (name, value) => (name, (⟨some value, true, false⟩ : Variable))
  forced ++ imported ++ defaults.filter fun (name, _) => !imported.any (·.1 == name)

/-- The shell as a program. -/
def program (arguments : List String) (environment : Environment) : Program Nat := do
  let identity ← Program.ask .identity
  let files ← Program.ask .files
  let run := runner Program.unbounded
  let directory := files.working.octets
  let shell : State := {
    name := arguments.headD "sh"
    number := identity.process
    parent := identity.parent
    vars := initialVariables identity directory environment
    directory
    parameters := []
    line := 0 }
  let (result, after) ← wholly run (main run (arguments.drop 1)) shell
  match result with
  | .ok status => return status
  | .error _ => return after.status

end BindingCoverage.Host.Shell
