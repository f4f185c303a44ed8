import BindingCoverage.Host.Format
import BindingCoverage.Host.Shell.Builtin.Basic

/-!
# Children

The builtin commands that send signals, that wait for children, and that tell of them.
-/

namespace BindingCoverage.Host.Shell.Builtin

open Script

/-! ## Jobs -/

/-- The jobs in the background, of which the last one comes first. -/
def jobsInOrder : Script (List Job) := do return (← get).jobs.reverse

/-- The job that a text with a percent sign names. -/
def job (text : String) : Script Job := do
  let all ← jobsInOrder
  let unknown : Script Job := fail s!"No such job: {text}"
  match text.toList.drop 1 with
  | [] | ['+'] | ['%'] => do
    match all with
    | j :: _ => return j
    | [] => fail "No current job"
  | ['-'] => do
    match all with
    | _ :: j :: _ => return j
    | _ => fail "No previous job"
  | cs => do
    match natural? (String.ofList cs) with
    | some n => (all.find? (·.number == n)).elim unknown pure
    | none => unknown

def jobOfArgument (text : String) : Script Job := do
  if text.startsWith "%" then job text else fail s!"No such job: {text}"

/-- How the end of a job is told, or that it goes on. -/
def jobState (j : Job) : String :=
  if !j.isOver then "Running"
  else
    match j.members.getLast?.bind (·.2) with
    | some status =>
      match status.signal?, status.code? with
      | some signal, _ =>
        Signal.text signal ++ (if status.dumpedMemory then " (core dumped)" else "")
      | none, some 0 | none, none => "Done"
      | none, some code => s!"Done({code})"
    | none => "Done"

/-- What is told of a job. The sign shows the two jobs that have short names. -/
def jobText (withNumbers : Bool) (sign : Char) (j : Job) : String :=
  let indent := s!"[{j.number}]   ".length
  let start := s!"[{j.number}] {sign} "
  let line (head : String) : String := head ++ Format.repeated (max 1 (33 - head.length)) ' '
  let processes := j.members.map (·.1)
  if withNumbers then
    let first := line s!"{start}{processes.headD 0} {jobState j}"
    let others := (processes.drop 1).map fun n =>
      let head := " |\n" ++ Format.repeated indent ' ' ++ s!"{n} "
      head ++ Format.repeated (max 1 (36 - head.length)) ' '
    first ++ String.join others ++ "\n"
  else line (start ++ jobState j) ++ String.join ((processes.drop 1).map fun _ => " | ") ++ "\n"

/-- Notes which children have ended. -/
def noteEnds : Nat → Script Unit
  | 0 => return
  | fuel + 1 => do
    match ← ask (.wait (some 0)) with
    | .ended number status => do
      noteEnd number status
      noteEnds fuel
    | _ => return

/-- Tells of a job, which is forgotten if it is over. -/
def tellJob (given : Given) (j : Job) : Script Unit := do
  let all ← jobsInOrder
  if given.getLast?.any (·.1 == 'p') then print s!"{j.members.headD (0, none) |>.1}\n"
  else
    let sign := if all.head?.any (·.number == j.number) then '+'
      else if (all.drop 1).head?.any (·.number == j.number) then '-' else ' '
    print (jobText (given.getLast?.any (·.1 == 'l')) sign j)
    if j.isOver then modify fun s => { s with jobs := s.jobs.filter (·.number != j.number) }

def jobs (arguments : List String) : Script Nat := do
  let (given, names) ← options "lp" "" arguments
  if names.isEmpty then
    noteEnds ((← get).jobs.length * 1000 + 1000)
    for j in ← jobsInOrder do tellJob given j
  else
    for name in names do tellJob given (← jobOfArgument name)
  return 0

/-- Goes on with a job, which only shells with a terminal can do. -/
def resume (arguments : List String) : Script Nat := do
  let (_, names) ← options "" "" arguments
  let name := names.headD "(null)"
  discard (if names.isEmpty then job "%" else jobOfArgument name)
  fail s!"job {name} not created under job control"

/-! ## Signals -/

def killUsage : String :=
  "Usage: kill [-s sigspec | -signum | -sigspec] [pid | job]... or\nkill -l [exitstatus]"

/-- The number of a process or of a group. A job has a group of its own, which only shells with a
terminal give it. -/
def target (text : String) : Script Int := do
  match text.toList with
  | '-' :: digits => do return -((← number (String.ofList digits)) : Int)
  | '%' :: _ => do return -(((← job text).members.headD (0, none)).1 : Int)
  | _ => do return (← number text : Nat)

def sendAll (signal : Nat) (targets : List String) : Script Nat := do
  let mut status := 0
  for t in targets do
    match ← ask (.signal (← target t) signal) with
    | .ok () => pure ()
    | .error e => do
      warn (errorText .executing e ++ "\n")
      status := 1
  return status

def kill (arguments : List String) : Script Nat := do
  if arguments.isEmpty then fail killUsage
  let first := arguments.headD ""
  let direct : Option Nat := if first.startsWith "-" && first.length > 1 then
      signal? 1 (String.ofList (first.toList.drop 1)) else none
  let (signal, list, rest) : Option Nat × Bool × List String ←
    match direct with
    | some n => pure (some n, false, arguments.drop 1)
    | none => do
      if !first.startsWith "-" then pure (none, false, arguments)
      else
        let (given, rest) ← options "l" "s" arguments
        let list := given.any (·.1 == 'l')
        match given.find? (·.1 == 's') with
        | none => pure (none, list, rest)
        | some (_, name) =>
          match signal? 1 name with
          | some n => pure (some n, list, rest)
          | none => fail s!"invalid signal number or name: {name}"
  if list then
    match rest with
    | [] => do
      print (String.join
        ("0\n" :: (List.range Signal.greatest).map fun n => signalName (n + 1) ++ "\n"))
      return 0
    | text :: _ => do
      let n ← number text
      let n := if 128 < n then n - 128 else n
      if 0 < n && n ≤ Signal.greatest then
        print (signalName n ++ "\n")
        return 0
      else fail s!"invalid signal number or exit status: {text}"
  else if rest.isEmpty then fail killUsage
  else sendAll (signal.getD Signal.terminate) rest

/-! ## Waiting -/

/-- Waits for all children; there is no status if a signal came. -/
def awaitAll : Nat → Script (Option Nat)
  | 0 => lift Program.stall
  | fuel + 1 => do
    if (← get).jobs.all (·.isOver) then
      modify fun s => { s with jobs := s.jobs.map fun j => { j with isKnown := true } }
      return some 0
    else
      match ← ask (.wait none) with
      | .ended number status => do
        noteEnd number status
        awaitAll fuel
      | .interrupted => do
        noteCaught
        return none
      | _ => return some 0

def interruptedStatus : Script Nat := do return 128 + ((← get).caught.headD 0)

/-- Waits for one job after the other; gives the status of the last one that there is. -/
def awaitEach : Nat → List String → Script Nat
  | status, [] => return status
  | status, text :: rest => do
    let process ← if text.startsWith "%"
      then do pure ((← job text).members.getLastD (0, none)).1
      else number text
    match (← get).jobs.find? fun j => j.members.getLast?.any (·.1 == process) with
    | none => awaitEach status rest
    | some j => do
      match ← awaitJob process true with
      | none => interruptedStatus
      | some status => do
        modify fun s => { s with
          jobs := s.jobs.map fun k =>
            if k.number = j.number then { k with isKnown := true } else k }
        awaitEach status rest

def wait (arguments : List String) : Script Nat := do
  let (_, arguments) ← options "" "" arguments
  match arguments with
  | [] => do
    match ← awaitAll Program.unbounded with
    | some status => return status
    | none => interruptedStatus
  | arguments => awaitEach 127 arguments

end BindingCoverage.Host.Shell.Builtin
