import BindingCoverage.Extractor.Invocation
import BindingCoverage.Extractor.Runner
import BindingCoverage.Host.Installed

/-!
# Processes

What happens on a host when an invocation is started there: the course of the process, and the
changes that it makes to the files.
-/

namespace BindingCoverage.Extractor

structure Process where
  course : Course
  /-- In their order. -/
  changes : List Host.Change

namespace Process

/-- How many steps the processes of a run get; what has not ended then counts as something that
never does. -/
def stepLimit : Nat := 2000000

/-- How many octets they may read and write. -/
def octetLimit : Nat := 50000000

/-- The variables that the process is given. -/
def environment : Host.Environment := [("PATH", Host.SearchPath.standard), ("HOME", "/root")]

/-- What is started by one of several paths: the first one that can be started. A file that may not
be started is remembered while the search goes on. -/
def firstOf (files : Host.Files) (arguments : List String) (failure : Host.SystemError) :
    List String → Except Host.SystemError (String × List String)
  | [] => .error failure
  | path :: rest =>
    match Host.Image.start files path arguments with
    | .ok found => .ok found
    | .error .permissionDenied => firstOf files arguments .permissionDenied rest
    | .error .notFound | .error .notADirectory => firstOf files arguments failure rest
    | .error e => .error e

/-- What is started for a program with arguments. A name without a slash is looked for. -/
def find (files : Host.Files) (program : String) (arguments : List String) :
    Except Host.SystemError (String × List String) :=
  if program.isEmpty then .error .notFound
  else if program.toList.contains '/' then Host.Image.start files program (program :: arguments)
  else
    firstOf files (program :: arguments) .notFound
      (Host.SearchPath.candidates Host.SearchPath.standard program)

/-- What became of a first process and its output pipes. -/
def ofMachine (m : Host.Machine) : Process :=
  let time? (s : Host.Stream) (l : List (Host.Stream × Nat)) : Option Nat :=
    (l.find? (·.1 == s)).map (·.2)
  let pipe (s : Host.Stream) : Pipe := {
    writes := (m.written.reverse.filter (·.stream == s)).map fun w =>
      ⟨w.moment.time, w.octets, w.moment.isOutside⟩
    closes := time? s m.released
    withdrawal := time? s m.withdrawn }
  { course := { exit := m.exit, stdout := pipe .stdout, stderr := pipe .stderr }
    changes := m.changes.reverse }

/-- The machine on which an invocation is started. -/
def machine (files : Host.Files) (i : Invocation) : Except Host.SystemError Host.Machine := do
  if (i.program :: i.args).any (·.toList.contains '\x00') then throw .zeroInArgument
  let program := Octets.ofText i.program
  let (name, arguments) ← find files program (i.args.map Octets.ofText)
  return .initial files (Host.installed name arguments environment)

/-- What happens on a machine up to a horizon. -/
def follow (m : Host.Machine) (horizon : Option Nat) : Process :=
  ofMachine (m.run Host.installed horizon octetLimit stepLimit)

/-- The files when a run is over; the process group may have been killed before. -/
def filesAfter (p : Process) (files : Host.Files) (kill : Option Nat) (ended : Nat) : Host.Files :=
  let seen := p.changes.filter fun c =>
    c.moment.time ≤ ended && (c.moment.isOutside || kill.all (c.moment.time ≤ ·))
  seen.foldl (fun files c => files.edit c.path c.edit) files

end Process

/-- What a run on a host leaves behind. -/
structure Performance where
  result : Except Error (List UInt8)
  files : Host.Files
  /-- When the run was over, from the start of the process. -/
  ended : Nat

/-- When a run with limits is over at the latest if the runner takes no time itself. -/
def horizon (limits : Limits) (schedule : Schedule) : Option Nat :=
  (earlier (limits.timeout.map (·.nanos)) (schedule.raise limits)).map
    (· + pollInterval + 2 * killGrace)

/-- What is left behind by a process that was followed up to a horizon. There is nothing if the run
lasts longer than that. -/
def performUntil (limits : Limits) (schedule : Schedule) (files : Host.Files) (i : Invocation)
    (m : Host.Machine) (horizon : Option Nat) : Option (Option Performance) :=
  let process := Process.follow m horizon
  match run limits i.program process.course schedule with
  | none => none
  | some .overflow => some none
  | some (.returned account) =>
    if horizon.any (· < account.ended) then none
    else
      let files := process.filesAfter files account.kills.head? account.ended
      some (some ⟨account.result, files, account.ended⟩)

/-- Runs an invocation on a host: nothing if that never ends, and `none` inside if it stops because
a moment lies beyond what the clock can express. A run with limits needs no more of the process
than what happens up to its end. -/
def perform (limits : Limits) (schedule : Schedule) (files : Host.Files) (i : Invocation) :
    Option (Option Performance) :=
  match Process.machine files i with
  | .error e => some (some ⟨.error (.spawn i.program e), files, 0⟩)
  | .ok m =>
    match horizon limits schedule with
    | none => performUntil limits schedule files i m none
    | some h =>
      (performUntil limits schedule files i m (some h)).or
        (performUntil limits schedule files i m none)

end BindingCoverage.Extractor
