import BindingCoverage.Host.Program
import BindingCoverage.Host.Stream

/-!
# Machines

The processes of a host with everything that they share: the files, the open files, the pipes and
the clock. The first process was started with two output pipes, and what happens to these and to
the files is kept as a record with its times. Times are nanoseconds from the start of the first
process.
-/

namespace BindingCoverage.Host

/-- What is read from or written to. -/
inductive Channel where
  | output (stream : Stream)
  | reading (pipe : Nat)
  | writing (pipe : Nat)
  | file (path : Path)
  | directory (path : Path)
  | device (kind : Device)
  deriving DecidableEq, Repr

structure OpenFile where
  channel : Channel
  reads : Bool
  writes : Bool
  appends : Bool := false
  offset : Nat := 0
  deriving DecidableEq, Repr

/-- What a descriptor stands for. -/
structure Slot where
  /-- The index of an open file. -/
  opened : Nat
  /-- Whether the descriptor is closed when the process goes on as another program. -/
  closesOnReplace : Bool := false
  deriving DecidableEq, Repr

structure Process where
  number : Nat
  parent : Nat
  group : Nat
  /-- What the process does next. -/
  action : Action
  /-- When it has come to that. -/
  clock : Nat
  slots : List (Nat × Slot)
  working : Path
  /-- The dispositions that are not the standard one. -/
  dispositions : List (Nat × Disposition) := []
  /-- The signals that were caught. -/
  pending : List Nat := []
  stopped : Bool := false
  ended : Option ExitStatus := none

/-- A pipe with what was written and not yet read, the oldest part first. -/
structure PipeBuffer where
  parts : List String := []
  size : Nat := 0
  deriving DecidableEq, Repr

/-- What happens to a place among the files. -/
inductive Edit where
  | put (node : Node)
  | remove
  /-- Octets that are written into a file. -/
  | splice (offset : Nat) (octets : List UInt8)
  deriving DecidableEq, Repr

/-- When something was done, and whether a process outside the first group did it. -/
structure Moment where
  time : Nat
  isOutside : Bool
  deriving DecidableEq, Repr

structure Change where
  moment : Moment
  path : Path
  edit : Edit
  deriving DecidableEq, Repr

structure Written where
  moment : Moment
  stream : Stream
  octets : String
  deriving DecidableEq, Repr

structure Machine where
  now : Nat := 0
  processes : List Process
  /-- The number of the next process. -/
  next : Nat
  opened : Array OpenFile
  pipes : Array PipeBuffer := #[]
  files : Files
  /-- What was written to the output pipes, the latest first. -/
  written : List Written := []
  /-- What happened to the files, the latest first. -/
  changes : List Change := []
  /-- When no process had an output pipe any more. -/
  released : List (Stream × Nat) := []
  /-- When no process outside the first group had an output pipe any more. -/
  withdrawn : List (Stream × Nat) := []
  /-- When and how the first process ended. -/
  exit : Option (Nat × ExitStatus) := none
  /-- How many octets were read and written. -/
  moved : Nat := 0

/-- The octets of a file after some were written into it. -/
def spliced (old : List UInt8) (offset : Nat) (new : List UInt8) : List UInt8 :=
  old.take offset ++ List.replicate (offset - old.length) 0 ++ new ++ old.drop (offset + new.length)

namespace Files

def edit (f : Files) (path : Path) : Edit → Files
  | .put node => f.add path node
  | .remove => f.remove path
  | .splice offset new =>
    match f.get? path with
    | some (.file old executable) => f.add path (.file (spliced old offset new) executable)
    | _ => f

end Files

namespace Process

def slot? (p : Process) (descriptor : Nat) : Option Slot :=
  (p.slots.find? (·.1 == descriptor)).map (·.2)

def withSlot (p : Process) (descriptor : Nat) (slot : Slot) : Process :=
  { p with slots := (descriptor, slot) :: p.slots.filter (·.1 != descriptor) }

def withoutSlot (p : Process) (descriptor : Nat) : Process :=
  { p with slots := p.slots.filter (·.1 != descriptor) }

/-- The least free descriptor that is not less than the given one. -/
def freeDescriptor (p : Process) (least : Nat) : Nat :=
  ((List.range (p.slots.length + 1)).map (· + least)).find? (fun d => (p.slot? d).isNone)
    |>.getD least

def disposition (p : Process) (signal : Nat) : Disposition :=
  ((p.dispositions.find? (·.1 == signal)).map (·.2)).getD .standard

def withDisposition (p : Process) (signal : Nat) (d : Disposition) : Process :=
  let others := p.dispositions.filter (·.1 != signal)
  { p with dispositions := if d = .standard then others else (signal, d) :: others }

def isAlive (p : Process) : Bool := p.ended.isNone

end Process

namespace Machine

/-- The number of the first process, which is also that of its group. -/
def first : Nat := 4711

/-- The number of the process that started the first one. -/
def starter : Nat := 4700

/-- How much a pipe holds. -/
def pipeCapacity : Nat := 65536

def process? (m : Machine) (number : Nat) : Option Process :=
  m.processes.find? (·.number == number)

def update (m : Machine) (number : Nat) (f : Process → Process) : Machine :=
  { m with processes := m.processes.map fun p => if p.number = number then f p else p }

def openFile? (m : Machine) (slot : Slot) : Option OpenFile := m.opened[slot.opened]?

/-- The files as a process sees them. -/
def filesFor (m : Machine) (p : Process) : Files := { m.files with working := p.working }

/-- Whether a process has a channel of some kind open. -/
def hasOpen (m : Machine) (p : Process) (test : Channel → Bool) : Bool :=
  p.slots.any fun (_, slot) => (m.openFile? slot).any fun o => test o.channel

/-- Whether any process has. -/
def anyHasOpen (m : Machine) (test : Channel → Bool) : Bool :=
  m.processes.any fun p => m.hasOpen p test

/-- The moment at which a process does something. -/
def moment (m : Machine) (p : Process) : Moment := ⟨m.now, p.group != first⟩

/-- A process changes the files. -/
def record (m : Machine) (p : Process) (path : Path) (edit : Edit) : Machine :=
  { m with files := m.files.edit path edit, changes := ⟨m.moment p, path, edit⟩ :: m.changes }

/-- Notes a stream that nobody of a kind has open any more. -/
def noted (now : Nat) (gone : Stream → Bool) (known : List (Stream × Nat)) : List (Stream × Nat) :=
  Stream.all.foldl
    (fun known s => if gone s && !known.any (·.1 == s) then (s, now) :: known else known) known

/-- Notes which output pipes nobody has any more, or nobody outside the first group. -/
def noteReleases (m : Machine) : Machine :=
  let outside : List Process := m.processes.filter (·.group != first)
  { m with
    released := noted m.now (fun s => !m.anyHasOpen (· == .output s)) m.released
    withdrawn := (Stream.all.filter fun s => !outside.any fun p => m.hasOpen p (· == .output s)).map
      fun s => ((m.withdrawn.find? (·.1 == s)).getD (s, m.now)) }

end Machine

end BindingCoverage.Host
