import BindingCoverage.Host.Shell.State

/-!
# Children of a shell

A shell starts children that are shells themselves, and waits for them. A child that is waited for
and that a signal ended is reported, unless the signal is one that people send all the time.
-/

namespace BindingCoverage.Host.Shell

/-- The status that stands for the end of a process. -/
def statusOf (s : ExitStatus) : Nat :=
  match s.code?, s.signal? with
  | some code, _ => code
  | none, some signal => 128 + signal
  | none, none => 0

namespace Job

def isOver (j : Job) : Bool := j.members.all (·.2.isSome)

def has (j : Job) (process : Nat) : Bool := j.members.any (·.1 == process)

def note (j : Job) (process : Nat) (status : ExitStatus) : Job :=
  { j with
    members := j.members.map fun (n, old) => if n = process then (n, some status) else (n, old) }

/-- Whether a job may lose its number to another one: it is over, and somebody knows that. -/
def isSettled (j : Job) : Bool := j.isOver && j.isKnown

/-- The status of the last member. -/
def status (j : Job) : Nat :=
  match j.members.getLast? with
  | some (_, some s) => statusOf s
  | _ => 0

end Job

namespace Script

/-- The shell of a child: it has no children yet, and does nothing special when signals come. -/
def childOf (s : State) : State :=
  { s with jobs := [], traps := s.traps.filter (·.2.isEmpty), caught := [] }

/-- Starts a child that carries out an action, which ends with a status in any case. -/
def fork (action : Script Nat) : Script Nat := fun s => do
  let number ← Program.fork do
    s.traps.forM fun (signal, action) =>
      if signal = 0 || action.isEmpty then pure ()
      else Program.ask (.dispose signal .standard)
    let (result, after) ← action (childOf s)
    match result with
    | .ok status => return status
    | .error _ => return after.status
  return (.ok number, s)

/-- Notes the end of a child. -/
def noteEnd (process : Nat) (status : ExitStatus) : Script Unit :=
  modify fun s => { s with jobs := s.jobs.map (·.note process status) }

/-- Notes the signals that were caught. -/
def noteCaught : Script Unit := do
  let signals ← ask .caught
  modify fun s => { s with caught := s.caught ++ signals.filter (!s.caught.contains ·) }

/-- What is said of a child that a signal ended. -/
def endText? (status : ExitStatus) : Option String :=
  match status.signal? with
  | some signal =>
    if signal = Signal.interrupt || signal = Signal.brokenPipe then none
    else some (Signal.text signal ++ (if status.dumpedMemory then " (core dumped)" else ""))
  | none => none

/-- Adds a job with the first number that is free. -/
def addJob (members : List Nat) : Script Unit := modify fun s =>
  let taken := (s.jobs.filter (!·.isSettled)).map (·.number)
  let number := ((List.range (taken.length + 1)).map (· + 1)).find? (!taken.contains ·) |>.getD 1
  { s with
    jobs := s.jobs.filter (·.number != number) ++ [{ number, members := members.map (·, none) }] }

def jobOf? (process : Nat) : Script (Option Job) := do
  return (← get).jobs.find? (·.has process)

def forgetJob (process : Nat) : Script Unit :=
  modify fun s => { s with jobs := s.jobs.filter (!·.has process) }

/-- Waits until the job that a process belongs to is over; gives its status. If signals that are
caught are to end the wait, there is no status then. -/
def awaitJob (process : Nat) (isInterruptible : Bool) : Script (Option Nat) := do
  let rec go : Nat → Script (Option Nat)
    | 0 => lift Program.stall
    | fuel + 1 => do
      match ← jobOf? process with
      | none => return some 127
      | some job =>
        if job.isOver then return some job.status
        else
          match ← ask (.wait none) with
          | .ended number status => do
            noteEnd number status
            if job.has number then
              match endText? status with
              | some text => say (text ++ "\n")
              | none => pure ()
            go fuel
          | .interrupted => do
            noteCaught
            if isInterruptible then return none else go fuel
          | _ => return some 127
  go Program.unbounded

/-- Waits for the children of a command; gives its status. -/
def waitFor (members : List Nat) : Script Nat := do
  match members.getLast? with
  | none => return 0
  | some last => do
    addJob members
    let status ← awaitJob last false
    forgetJob last
    return status.getD 0

end Script

end BindingCoverage.Host.Shell
