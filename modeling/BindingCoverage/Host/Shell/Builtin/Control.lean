import BindingCoverage.Host.Shell.Search

/-!
# Control

The builtin commands that leave loops, functions and the shell, that read further texts, that have
to do with names, and that say what is done when signals come.
-/

namespace BindingCoverage.Host.Shell.Builtin

open Script

/-! ## Leaving -/

/-- How many loops are left, at most as many as there are. -/
def levels (arguments : List String) : Script Nat := do
  match arguments with
  | [] => return min 1 (← get).loops
  | a :: _ => do
    let n ← number a
    if n = 0 then fail s!"Illegal number: {a}"
    return min n (← get).loops

def break_ (arguments : List String) : Script Nat := do
  match ← levels arguments with
  | 0 => return 0
  | n => do
    modify fun s => { s with status := 0 }
    throw (.leave n)

def continue_ (arguments : List String) : Script Nat := do
  match ← levels arguments with
  | 0 => return 0
  | n => do
    modify fun s => { s with status := 0 }
    throw (.again n)

/-- The status that is given or that there is. -/
def statusFrom (arguments : List String) : Script Nat := do
  match arguments with
  | [] => do
    let s ← get
    return s.statusBefore.getD s.status
  | a :: _ => number a

def return_ (arguments : List String) : Script Nat := do
  throw (.return (← statusFrom arguments))

def exit_ (arguments : List String) : Script Nat := do
  throw (.exit ((← statusFrom arguments) % 256))

/-! ## Texts of commands -/

def eval (run : Runner) (mode : Mode) (arguments : List String) : Script Nat := do
  if arguments.isEmpty then return 0
  else runText run { mode with isLast := false } (" ".intercalate arguments)

/-- The path of a file of commands. -/
def sourcePath (name : String) : Script String := do
  if name.toList.contains '/' then return name
  let files ← ask .files
  let all := SearchPath.candidates (← searchPath) name
  match all.find? fun p =>
    match files.node (Octets.text p) with
    | .ok (.file _ _) => true
    | _ => false with
  | some path => return path
  | none => fail s!"{name}: not found"

def dot (run : Runner) (arguments : List String) : Script Nat := do
  match arguments with
  | [] => return 0
  | name :: _ => do
    let path ← sourcePath name
    match ← ask (.openFile path { reads := true }) with
    | .error e => fail s!"cannot open {path}: {errorText .opening e}"
    | .ok d => do
      let text ← lift (Program.readAll d)
      discard (ask (.close d))
      modify fun s => { s with builtin := some path, calls := s.calls + 1 }
      let leave : Script Unit := modify fun s => { s with calls := s.calls - 1 }
      try
        let status ← runText run {} (text.toOption.getD "")
        leave
        return status
      catch
        | .return status => do
          leave
          return status
        | stop => do
          leave
          throw stop

/-- Goes on as another program; without one it only makes its redirections last. -/
def exec (arguments : List String) : Script Nat := do
  match arguments with
  | [] => return 0
  | name :: _ => do
    if name.toList.contains '/' then execute [name] arguments
    else
      let found := pathsOf (← ask .files) (← searchPath) name
      execute (found.toOption.getD []) arguments

/-! ## Names -/

def keywordOf? (name : String) : Option Keyword := Keyword.all.find? (·.text == name)

/-! ### Aliases -/

def aliasText (name text : String) : String := s!"{name}={quotedText text}\n"

/-- The place of an alias in the list of all. -/
def aliasPlace (name : String) : Nat :=
  let codes := name.toList.map (·.toNat)
  (codes.headD 0 * 16 + codes.foldl (· + ·) 0) % 39

def aliases (arguments : List String) : Script Nat := do
  if arguments.isEmpty then
    for (name, text) in (← get).aliases.mergeSort (fun a b => aliasPlace a.1 ≤ aliasPlace b.1) do
      print (aliasText name text)
  let mut status := 0
  for a in arguments do
    let name := String.ofList (a.toList.take 1 ++ (a.toList.drop 1).takeWhile (· != '='))
    let all := (← get).aliases
    if name.length < a.length then
      let text := String.ofList (a.toList.drop (name.length + 1))
      let changed := if all.any (·.1 == name)
        then all.map fun (n, old) => if n = name then (n, text) else (n, old)
        else all ++ [(name, text)]
      modify fun s => { s with aliases := changed }
    else
      match all.find? (·.1 == name) with
      | some (_, text) => print (aliasText name text)
      | none => do
        say s!"alias: {name} not found\n"
        status := 1
  return status

def unalias (arguments : List String) : Script Nat := do
  let (given, names) ← options "a" "" arguments
  if !given.isEmpty then
    modify fun s => { s with aliases := [] }
    return 0
  let mut status := 0
  for name in names do
    let all := (← get).aliases
    if all.any (·.1 == name) then
      modify fun s => { s with aliases := all.filter (·.1 != name) }
    else
      say s!"unalias: {name} not found\n"
      status := 1
  return status

/-! ### What names stand for -/

/-- What is said of a name, and whether it stands for anything. -/
def describe (isShort : Bool) (name : String) : Script Nat := do
  if (keywordOf? name).isSome then
    print (if isShort then name ++ "\n" else s!"{name} is a shell keyword\n")
    return 0
  if let some (_, text) := (← get).aliases.find? (·.1 == name) then
    print (if isShort then s!"alias {aliasText name text}" else s!"{name} is an alias for {text}\n")
    return 0
  match ← find true (← searchPath) name with
  | .function _ => do
    print (if isShort then name ++ "\n" else s!"{name} is a shell function\n")
    return 0
  | .builtin _ => do
    let kind := if Reading.specialBuiltins.contains name then "a special shell builtin"
      else "a shell builtin"
    print (if isShort then name ++ "\n" else s!"{name} is {kind}\n")
    return 0
  | .program paths => do
    let files ← ask .files
    let found := paths.filter fun p =>
      match files.node (Octets.text p) with
      | .ok (.file _ executable) => executable
      | .ok (.program _) => true
      | _ => false
    match found with
    | path :: _ => do
      print (if isShort then path ++ "\n" else s!"{name} is {path}\n")
      return 0
    | [] => missing
  | .missing _ => missing
where
  missing : Script Nat := do
    if !isShort then print s!"{name}: not found\n"
    return 127

def type (arguments : List String) : Script Nat := do
  let mut status := 0
  for name in arguments do
    let n ← describe false name
    if n ≠ 0 then status := n
  return status

/-- `command` where it only tells what a name stands for. -/
def command (arguments : List String) : Script Nat := do
  let (given, names) ← options "pvV" "" arguments
  match names, given.find? fun (c, _) => c == 'v' || c == 'V' with
  | name :: _, some (c, _) => describe (c == 'v') name
  | _, _ => return 0

/-! ## Signals -/

/-- The disposition that goes with what is to be done. -/
def dispositionOf : Option String → Disposition
  | none => .standard
  | some "" => .ignored
  | some _ => .caught

def setTrap (signal : Nat) (action : Option String) : Script Unit := do
  modify fun s =>
    let others := s.traps.filter (·.1 != signal)
    { s with traps := others ++ (action.map fun a => (signal, a)).toList }
  if signal ≠ 0 then ask (.dispose signal (dispositionOf action))

def trap (arguments : List String) : Script Nat := do
  let (_, arguments) ← options "" "" arguments
  match arguments with
  | [] => do
    for (signal, action) in (← get).traps.mergeSort (fun a b => a.1 ≤ b.1) do
      print s!"trap -- {quotedText action} {signalName signal}\n"
    return 0
  | first :: rest => do
    let isReset := rest.isEmpty || (natural? first).any (· ≤ Signal.greatest)
    let action := if isReset || first = "-" then none else some first
    for name in if isReset then arguments else rest do
      match signal? 0 name with
      | some signal => setTrap signal action
      | none => do
        say s!"trap: {name}: bad trap\n"
        return 1
    return 0

end BindingCoverage.Host.Shell.Builtin
