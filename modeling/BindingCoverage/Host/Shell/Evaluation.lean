import BindingCoverage.Host.Shell.Builtin.Children
import BindingCoverage.Host.Shell.Builtin.Control
import BindingCoverage.Host.Shell.Builtin.Output
import BindingCoverage.Host.Shell.Builtin.Surroundings
import BindingCoverage.Host.Shell.Builtin.Variables

/-!
# Carrying out commands

One function for each kind of command. What they need of each other is a `Runner`, which is given to
all of them; `runner` ties the knot, one level of nesting after the other.

A command whose status nobody looks at ends the shell if it fails and that was asked for. A command
after which the shell has nothing to do ends the shell in any case, and a program that is started
last takes the place of the shell.
-/

namespace BindingCoverage.Host.Shell

namespace Script

/-- The time that a command takes by itself. -/
def commandTime : Nat := 1000

/-! ## Simple commands -/

/-- What is known of a simple command when its name has been found. -/
structure Head where
  /-- The words so far, as fields. -/
  arguments : List String
  /-- The words that are still to be expanded. -/
  rest : List Word
  found : Option Found
  /-- Whether it is a builtin command that ends the shell if it fails. -/
  isSpecial : Bool := false
  /-- Whether a function is not meant. -/
  isCommand : Bool := false
  path : String

/-- Expands words until there is a field. -/
def firstFields (run : Runner) : List Word → Script (List String × List Word)
  | [] => return ([], [])
  | w :: rest => do
    let here ← fields run w
    if here.isEmpty then firstFields run rest else return (here, rest)

/-- Reads over the options of `command`. There is nothing after them if it is to do more than to run
a command. -/
def afterCommand (run : Runner) : Nat → List String → List Word → String →
    Script (Option (List String × List Word × String))
  | 0, _, _, _ => return none
  | fuel + 1, arguments, rest, path => do
    match arguments with
    | [] =>
      match ← firstFields run rest with
      | ([], _) => return none
      | (more, rest) => afterCommand run fuel more rest path
    | a :: more =>
      match a.toList with
      | ['-', '-'] =>
        match more with
        | [] =>
          match ← firstFields run rest with
          | ([], _) => return none
          | (more, rest) => return some (more, rest, path)
        | more => return some (more, rest, path)
      | '-' :: c :: cs =>
        if (c :: cs).all (· == 'p') then afterCommand run fuel more rest SearchPath.standard
        else return none
      | _ => return some (arguments, rest, path)

/-- Finds out what the name of a command stands for. -/
def headFrom (run : Runner) (path : String) (isCommand : Bool) : Nat → List String → List Word →
    Script Head
  | 0, arguments, rest => return { arguments, rest, found := none, isCommand, path }
  | fuel + 1, arguments, rest => do
    let name := arguments.headD ""
    let found ← find (!isCommand) path name
    let here : Head := { arguments, rest, found := some found, isCommand, path }
    match found with
    | .builtin "command" =>
      match ← afterCommand run (rest.length + arguments.length + 2) (arguments.drop 1) rest
        path with
      | none => return here
      | some (arguments, rest, path) => headFrom run path true fuel arguments rest
    | .builtin name =>
      return { here with isSpecial := !isCommand && Reading.specialBuiltins.contains name }
    | _ => return here

def head (run : Runner) (words : List Word) : Script Head := do
  let path ← searchPath
  match ← firstFields run words with
  | ([], _) => return { arguments := [], rest := [], found := none, path }
  | (arguments, rest) => headFrom run path false (words.length + 2) arguments rest

/-- The field of an argument that is an assignment. -/
def assignmentField (run : Runner) (w : Word) : Script (List String) := do
  match w.assignment? with
  | some (name, value) => return [name ++ "=" ++ (← assignedText run value)]
  | none => fields run w

/-- The remaining arguments of a command. -/
def remaining (run : Runner) (h : Head) : Script (List String) := do
  let assigns := match h.found with
    | some (.builtin name) => assigningNames.contains name
    | _ => false
  let more ← h.rest.mapM (if assigns then assignmentField run else fields run)
  return more.flatten

/-- Shows a command before it is carried out. -/
def trace (run : Runner) (messages : Nat) (words : List String) : Script Unit := do
  let s ← get
  if s.hasOption 'x' && !s.isTracing then
    set { s with isTracing := true }
    let start := (s.value? "PS4").getD ""
    let shown ← match (Reading.partsIn
        ⟨Reading.fail "Unreadable", Reading.fail "Unreadable"⟩ .document).run
        { rest := start.toList } with
      | .ok (parts, _) => documentText run parts
      | .error _ => pure start
    modify fun s => { s with isTracing := false }
    discard (lift (Program.write messages (shown ++ " ".intercalate words ++ "\n")))

/-- Carries out a builtin command. -/
def runBuiltin (run : Runner) (mode : Mode) (name : String) (arguments : List String) :
    Script Nat := do
  let before := (← get).builtin
  modify fun s => { s with builtin := some name, hasFailedOutput := false }
  let action : Script Nat :=
    match name with
    | ":" | "true" | "hash" => pure 0
    | "false" => pure 1
    | "." => Builtin.dot run arguments
    | "[" => Builtin.bracket arguments
    | "alias" => Builtin.aliases arguments
    | "bg" | "fg" => Builtin.resume arguments
    | "break" => Builtin.break_ arguments
    | "cd" | "chdir" => Builtin.cd arguments
    | "command" => Builtin.command arguments
    | "continue" => Builtin.continue_ arguments
    | "echo" => Builtin.echo arguments
    | "eval" => Builtin.eval run mode arguments
    | "exec" => Builtin.exec arguments
    | "exit" => Builtin.exit_ arguments
    | "export" => Builtin.export_ arguments
    | "getopts" => Builtin.getopts arguments
    | "jobs" => Builtin.jobs arguments
    | "kill" => Builtin.kill arguments
    | "local" => Builtin.local_ arguments
    | "printf" => Builtin.printf arguments
    | "pwd" => Builtin.pwd arguments
    | "read" => Builtin.read arguments
    | "readonly" => Builtin.readonly arguments
    | "return" => Builtin.return_ arguments
    | "set" => Builtin.set_ arguments
    | "shift" => Builtin.shift arguments
    | "test" => Builtin.condition arguments
    | "times" => Builtin.times
    | "trap" => Builtin.trap arguments
    | "type" => Builtin.type arguments
    | "ulimit" => Builtin.ulimit arguments
    | "umask" => Builtin.umask arguments
    | "unalias" => Builtin.unalias arguments
    | "unset" => Builtin.unset arguments
    | "wait" => Builtin.wait arguments
    | _ => pure 0
  let leave : Script Unit := modify fun s => { s with builtin := before }
  try
    let status ← action
    let failed := (← get).hasFailedOutput
    if failed then warn s!"{name}: I/O error"
    leave
    return if failed then 1 else status
  catch stop =>
    leave
    throw stop

/-- Carries out a function. -/
def callFunction (run : Runner) (mode : Mode) (f : Function) (arguments : List String) :
    Script Nat :=
  restoring (fun before after =>
    { after with
      parameters := before.parameters
      optionOffset := before.optionOffset
      loops := before.loops
      calls := before.calls }) do
    modify fun s => { s with
      parameters := arguments, optionOffset := none, loops := 0, calls := s.calls + 1 }
    try run { isTested := mode.isTested } f.body
    catch
      | .return status => return status
      | stop => throw stop

/-- Carries out a program, in a child unless the shell has nothing else to do. -/
def callProgram (run : Runner) (mode : Mode) (paths arguments : List String) : Script Nat := do
  if mode.isLast && !(← get).hasTraps then execute paths arguments
  else
    let child ← forkShell run (execute paths arguments)
    waitFor [child]

/-- Carries out a command whose name was found. -/
def call (run : Runner) (mode : Mode) (h : Head) (arguments : List String) : Script Nat := do
  match h.found with
  | none => return (← get).substituted
  | some (.builtin name) =>
    if h.isSpecial then runBuiltin run mode name (arguments.drop 1)
    else
      try runBuiltin run mode name (arguments.drop 1)
      catch
        | .failure => pure (← get).status
        | stop => throw stop
  | some (.function f) => callFunction run mode f (arguments.drop 1)
  | some (.program _) | some (.missing _) => do
    let name := arguments.headD ""
    let path ← if h.isCommand then pure h.path else searchPath
    match ← find (!h.isCommand) path name with
    | .program paths => callProgram run mode paths arguments
    | .missing e => do
      warn s!"{name}: {errorText .executing e}"
      return 127
    | _ => return 127

/-- A command that is made of words. -/
def simple (run : Runner) (mode : Mode) (line : Nat) (assignments : List (String × Word))
    (words : List Word) (redirects : List Redirect) : Script Nat := do
  modify fun s => { s with line, substituted := 0 }
  let h ← head run words
  let arguments := h.arguments ++ (← remaining run h)
  let isExec := match h.found with
    | some (.builtin "exec") => true
    | _ => false
  let isLocal := h.found.isSome && !h.isSpecial
  let body (messages : Nat) : Script Nat := do
    let mut shown : List String := []
    for (name, word) in assignments do
      let value ← assignedText run word
      if isLocal then makeLocal name
      assign name value (isLocal || (isExec && 1 < arguments.length))
      shown := shown ++ [name ++ "=" ++ value]
    trace run messages (shown ++ arguments)
    call run mode h arguments
  let whole : Script (Option Nat) := do
    if isExec then
      if ← redirectForGood run redirects then return some (← body 2) else return none
    else withRedirects run redirects body
  let status ← if isLocal then withFrame whole else whole
  match status with
  | some status => return status
  | none => do
    modify fun s => { s with status := 2 }
    if h.isSpecial then throw .failure
    return 2

/-! ## Children -/

/-- Begins a child in the background: it does not hear what is typed to stop a program, and has
nothing to read unless it is told otherwise. -/
def enterBackground (readsNothing : Bool) : Script Unit := do
  ask (.dispose Signal.interrupt .ignored)
  ask (.dispose Signal.quit .ignored)
  if readsNothing then
    discard (ask (.close 0))
    discard (ask (.openFile "/dev/null" { reads := true }))

def subshell (run : Runner) (mode : Mode) (line : Nat) (c : Command) (redirects : List Redirect) :
    Script Nat := do
  modify fun s => { s with line }
  let inside : Script Nat := do
    redirectOnce run redirects
    run { mode with isLast := true } c
  if mode.isLast && !(← get).hasTraps then inside
  else waitFor [← forkShell run inside]

def background (run : Runner) (line : Nat) (c : Command) (redirects : List Redirect) :
    Script Nat := do
  modify fun s => { s with line }
  let child ← forkShell run do
    enterBackground true
    redirectOnce run redirects
    run { isLast := true } c
  addJob [child]
  modify fun s => { s with background := some child }
  return 0

/-- The children of a pipeline, of which the next one reads from a descriptor. -/
def pipelineMembers (run : Runner) (mode : Mode) (inBackground : Bool) :
    Option Nat → List Command → Script (List Nat)
  | _, [] => return []
  | reading, c :: rest => do
    let isLast := rest.isEmpty
    let ends ← if isLast then pure none else do pure (some (← ask .pipe))
    let child ← forkShell run do
      match ends with
      | some (r, _) => discard (ask (.close r))
      | none => pure ()
      if inBackground then enterBackground reading.isNone
      match reading with
      | some r =>
        if r ≠ 0 then
          discard (ask (.assign r 0))
          discard (ask (.close r))
      | none => pure ()
      match ends with
      | some (_, w) =>
        if w ≠ 1 then
          discard (ask (.assign w 1))
          discard (ask (.close w))
      | none => pure ()
      run { mode with isLast := true } c
    match reading with
    | some r => discard (ask (.close r))
    | none => pure ()
    match ends with
    | some (_, w) => discard (ask (.close w))
    | none => pure ()
    return child :: (← pipelineMembers run mode inBackground (ends.map (·.1)) rest)

def pipeline (run : Runner) (mode : Mode) (cs : List Command) (inBackground : Bool) :
    Script Nat := do
  let members ← pipelineMembers run mode inBackground none cs
  if inBackground then
    addJob members
    modify fun s => { s with background := members.getLast? }
    return 0
  else waitFor members

/-! ## Loops and choices -/

/-- How a round of a loop ended. -/
inductive Round where
  | whole (status : Nat)
  /-- The next round begins. -/
  | again
  /-- The loop is over. -/
  | over

/-- One round, or its test, in which loops may be left. -/
def round (action : Script Nat) : Script Round := do
  try return .whole (← action)
  catch
    | .leave n => if n ≤ 1 then return .over else throw (.leave (n - 1))
    | .again n => if n ≤ 1 then return .again else throw (.again (n - 1))
    | stop => throw stop

/-- Carries out an action inside one more loop. -/
def inLoop {α : Type} (action : Script α) : Script α :=
  restoring (fun before after => { after with loops := before.loops }) do
    modify fun s => { s with loops := s.loops + 1 }
    action

/-- The rounds of a loop with a test, of which the last one had a status. -/
def rounds (run : Runner) (mode : Mode) (untilSuccess : Bool) (test body : Command) :
    Nat → Nat → Script Nat
  | 0, _ => lift Program.stall
  | fuel + 1, status => do
    match ← round (run { isTested := true } test) with
    | .over => return 0
    | .again => rounds run mode untilSuccess test body fuel status
    | .whole n =>
      if (n == 0) == untilSuccess then return status
      else
        match ← round (run mode body) with
        | .over => return 0
        | .again => rounds run mode untilSuccess test body fuel 0
        | .whole status => rounds run mode untilSuccess test body fuel status

/-- The rounds of a loop over words. -/
def eachRound (run : Runner) (mode : Mode) (name : String) (body : Command) :
    List String → Nat → Script Nat
  | [], status => return status
  | value :: rest, _ => do
    assign name value false
    match ← round (run mode body) with
    | .over => return 0
    | .again => eachRound run mode name body rest 0
    | .whole status => eachRound run mode name body rest status

/-- Whether a text matches one of several patterns. -/
def matchesAny (run : Runner) (text : List Char) : List Word → Script Bool
  | [] => return false
  | w :: rest => do
    if Pattern.isMatch (← pattern run w) text then return true
    else matchesAny run text rest

/-- The command of the first arm with a matching pattern. -/
def chosen (run : Runner) (text : List Char) : List (List Word × Command) → Script Command
  | [] => return .nothing
  | (patterns, body) :: rest => do
    if ← matchesAny run text patterns then return body else chosen run text rest

/-! ## All commands -/

/-- Carries out a command; the runner is for the commands inside it. -/
def step (run : Runner) (mode : Mode) (c : Command) : Script Nat := do
  let inner : Mode := { mode with isLast := false }
  match c with
  | .nothing => return (← get).status
  | .simple line assignments words redirects => simple run mode line assignments words redirects
  | .pipeline cs inBackground => pipeline run mode cs inBackground
  | .redirected line c redirects => do
    modify fun s => { s with line }
    match ← withRedirects run redirects fun _ => run inner c with
    | some status => return status
    | none => return 2
  | .background line c redirects => background run line c redirects
  | .subshell line c redirects => subshell run mode line c redirects
  | .both first second => do
    let status ← run { isTested := true } first
    if status = 0 then run mode second else return status
  | .either first second => do
    let status ← run { isTested := true } first
    if status ≠ 0 then run mode second else return status
  | .sequence first second => do
    discard (run inner first)
    run mode second
  | .negated c => do
    let status ← run { isTested := true } c
    return if status = 0 then 1 else 0
  | .conditional test first second => do
    let status ← run { isTested := true } test
    if status = 0 then run mode first
    else if second.isNothing then return 0
    else run mode second
  | .loop untilSuccess test body =>
    inLoop (rounds run inner untilSuccess test body Program.unbounded 0)
  | .each line name words body => do
    modify fun s => { s with line }
    let values ← allFields run words
    inLoop (eachRound run inner name body values 0)
  | .choice line word arms => do
    modify fun s => { s with line }
    let text ← text run word
    let c ← chosen run text.toList arms
    if c.isNothing then return 0 else run mode c
  | .function line name body => do
    modify fun s =>
      { s with functions := (name, ⟨line, body⟩) :: s.functions.filter (·.1 != name) }
    return 0

/-- Whether a command that fails may end the shell. -/
def mayEndShell : Command → Bool
  | .simple _ _ _ _ | .subshell _ _ _ | .background _ _ _ | .pipeline _ _ => true
  | _ => false

/-- Carries out a command with all that comes with it. -/
def carryOut (run : Runner) (mode : Mode) (c : Command) : Script Nat := do
  if c.isNothing then
    if mode.isLast then throw (.exit (← get).status)
    return (← get).status
  lift (Program.pass commandTime)
  let s ← get
  if s.hasOption 'n' then return s.status
  handleSignals run
  let ends := s.hasOption 'e' && !mode.isTested && mayEndShell c
  let status ← step run mode c
  modify fun s => { s with status }
  if ends && status ≠ 0 then throw (.exit status)
  handleSignals run
  if mode.isLast then throw (.exit (← get).status)
  return (← get).status

/-- The runner for commands with so many levels of nesting. -/
def runner : Nat → Runner
  | 0, _, _ => lift Program.stall
  | depth + 1, mode, c => carryOut (runner depth) mode c

end Script

end BindingCoverage.Host.Shell
