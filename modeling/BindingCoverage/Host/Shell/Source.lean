import BindingCoverage.Host.Shell.Grammar
import BindingCoverage.Host.Shell.Jobs

/-!
# Texts of commands

A text is read and carried out one complete line of commands after the other, so a fault in one of
them comes to light when all before it are done. The actions for signals and for the end of the
shell are such texts.
-/

namespace BindingCoverage.Host.Shell.Script

/-- Takes the here-documents that a reader has read. -/
def takeDocuments (r : Reader) : Script Unit := modify fun s =>
  { s with documents := r.documents ++ s.documents, nextDocument := r.nextDocument }

/-- Carries out a text from where a reader stands; gives the status of its last command. -/
def runFrom (run : Runner) (mode : Mode) : Nat → Reader → Nat → Script Nat
  | 0, _, _ => lift Program.stall
  | fuel + 1, reader, status => do
    let s ← get
    let reader := { reader with
      nextDocument := s.nextDocument, documents := [], aliases := s.aliases }
    match (do return (← Reading.line, ← Reading.isAtEnd) :
      Reading (Option Command × Bool)).run reader with
    | .error fault => do
      modify fun s => { s with line := fault.line }
      fail s!"Syntax error: {fault.text}"
    | .ok ((none, _), _) => return status
    | .ok ((some command, isAtEnd), reader) => do
      takeDocuments reader
      let result ← run { mode with isLast := mode.isLast && isAtEnd } command
      runFrom run mode fuel reader (if command.isNothing then status else result)

/-- Carries out a text. -/
def runText (run : Runner) (mode : Mode) (text : String) : Script Nat :=
  runFrom run mode Program.unbounded { rest := text.toList } 0

/-! ## Signals -/

/-- Carries out the action for one signal. -/
def actOn (run : Runner) (signal : Nat) : Script Unit := do
  let before ← get
  match before.trap? signal with
  | none => return
  | some action => do
    let status := before.statusBefore.getD before.status
    modify fun s => { s with statusBefore := some status }
    try
      discard (runText run {} action)
      modify fun s => { s with status, statusBefore := before.statusBefore }
    catch
      | .exit n => throw (.exit n)
      | stop => do
        modify fun s => { s with statusBefore := before.statusBefore }
        throw stop

/-- Carries out the actions for the signals that were caught. -/
def handleSignals (run : Runner) : Script Unit := do
  if (← get).traps.any fun (signal, action) => signal != 0 && !action.isEmpty then
    noteCaught
    let caught := (← get).caught.mergeSort (· ≤ ·)
    modify fun s => { s with caught := [] }
    caught.forM (actOn run)

/-! ## The end -/

/-- Ends the shell with a status, after the action that was asked for. -/
def finish (run : Runner) (status : Nat) : Script Nat := do
  let s ← get
  match s.trap? 0 with
  | none => return status
  | some action => do
    set { s with
      traps := s.traps.filter (·.1 != 0)
      status
      statusBefore := some status
      loops := 0
      builtin := none }
    try
      discard (runText run {} action)
      return status
    catch
      | .exit n => return n
      | .failure => return (← get).status
      | _ => return status

/-- Carries out all that a shell does, up to its end. -/
def wholly (run : Runner) (action : Script Nat) : Script Nat := do
  let status ←
    try action
    catch
      | .exit n | .return n => pure n
      | _ => pure (← get).status
  modify fun s => { s with status }
  finish run status

/-- Starts a child that is a shell itself. -/
def forkShell (run : Runner) (action : Script Nat) : Script Nat := fork (wholly run action)

end BindingCoverage.Host.Shell.Script
