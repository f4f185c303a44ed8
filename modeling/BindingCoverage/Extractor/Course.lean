import BindingCoverage.Host.ExitStatus
import BindingCoverage.Host.Stream
import BindingCoverage.Text.Octets

/-!
# The course of a process

What a process and its descendants do when nobody interferes: when the process ends, what is
written to its two output pipes, and when the pipes are closed. Times are nanoseconds from the
start of the process.

A pipe is closed when the last process that holds it ends. That may be a descendant that lives
longer than the process, and it may be one that has left the process group. Killing the group ends
neither such a process nor its output.
-/

namespace BindingCoverage.Extractor

/-- An octet string that is written at once. -/
structure Write where
  time : Nat
  octets : String
  /-- Whether a process outside the process group writes them. -/
  isOutside : Bool := false
  deriving DecidableEq, Repr

/-- An octet with a time. -/
structure TimedOctet where
  time : Nat
  octet : UInt8
  deriving DecidableEq, Repr

structure Pipe where
  /-- What is written, with rising times. -/
  writes : List Write := []
  /-- When the pipe is closed; there is no time if it never is. -/
  closes : Option Nat
  /-- When the last process outside the process group lets go of the pipe; there is no time if that
  never happens. -/
  withdrawal : Option Nat := some 0
  deriving DecidableEq, Repr

structure Course where
  /-- When and how the process ends; it may never do so. -/
  exit : Option (Nat × Host.ExitStatus)
  stdout : Pipe
  stderr : Pipe
  deriving DecidableEq, Repr

/-- The earlier of two times that may not exist. -/
def earlier : Option Nat → Option Nat → Option Nat
  | none, t | t, none => t
  | some s, some t => some (min s t)

namespace Pipe

/-- When the pipe is closed, if the process group is killed at `kill`. -/
def closing (p : Pipe) (kill : Option Nat) : Option Nat :=
  match kill, p.withdrawal with
  | some k, some t => earlier p.closes (some (max k t))
  | _, _ => p.closes

/-- The octets that are written although the group may be killed, in their order, each with the time
of its writing. -/
def written (p : Pipe) (kill : Option Nat) : List TimedOctet :=
  (p.writes.filter fun w => w.isOutside || kill.all (w.time ≤ ·)).flatMap fun w =>
    (Octets.toList w.octets).map (⟨w.time, ·⟩)

/-- The stream of a pipe: everything that is written to it although the group may be killed. -/
def stream (p : Pipe) (kill : Option Nat) : List UInt8 := (p.written kill).map (·.octet)

end Pipe

namespace Course

def pipe (c : Course) : Host.Stream → Pipe
  | .stdout => c.stdout
  | .stderr => c.stderr

/-- How the process ended, if it has at time `t`. -/
def endedBy (c : Course) (t : Nat) : Option Host.ExitStatus :=
  match c.exit with
  | some (e, status) => if e ≤ t then some status else none
  | none => none

end Course

end BindingCoverage.Extractor
