import BindingCoverage.Extractor.Course
import BindingCoverage.Host.SystemError

/-!
# Readers of pipes

A reader takes what is written to a pipe in one read after another. A read waits until there is
something to read or nobody holds the pipe any more; it brings at most one chunk of what has been
written by then, which is put away as a whole. Nothing is brought by a read at the end of the pipe.
With that one, or with one that fails, the reader has ended, and gives a signal.

How fast a reader is, and how much its reads bring, is up to its `pace`.
-/

namespace BindingCoverage.Extractor

/-- The greatest number of octets that one read brings. -/
def chunkSize : Nat := 8192

structure ReadTimes where
  /-- Before the read begins. -/
  ask : Nat := 0
  /-- From its end until what it brought is put away, or the signal is given. -/
  keep : Nat := 0
  /-- How many octets it brings at most, although one at least if there are any. -/
  most : Nat := chunkSize
  /-- Why it fails, if it does. -/
  fault : Option Host.SystemError := none

structure Reader where
  /-- The number of reads that brought something. -/
  reads : Nat := 0
  /-- When the last of them ended. -/
  ended : Nat := 0
  /-- How many more octets it could have brought. -/
  room : Nat := 0
  /-- When what it brought was put away. -/
  ready : Nat := 0
  /-- What has been put away, last first, with the time of that. -/
  kept : List TimedOctet := []
  /-- When the failure of a read was signalled. -/
  fault : Option (Nat × Host.SystemError) := none

namespace Reader

/-- When the failure of a read with these times is signalled, if it fails. -/
def failure (r : Reader) (times : ReadTimes) : Option (Nat × Host.SystemError) :=
  times.fault.map (r.ready + times.ask + times.keep, ·)

/-- The reader when the octet that comes next is put away. It belongs to the last read if it had
been written by the end of that, and to one more read if not. -/
def take (pace : Nat → ReadTimes) (r : Reader) (o : TimedOctet) : Reader :=
  if r.fault.isSome then r
  else if 0 < r.room ∧ o.time ≤ r.ended then
    { r with room := r.room - 1, kept := ⟨r.ready, o.octet⟩ :: r.kept }
  else
    let times := pace r.reads
    match r.failure times with
    | some fault => { r with fault := some fault }
    | none =>
      let ended := max (r.ready + times.ask) o.time
      let ready := ended + times.keep
      { reads := r.reads + 1
        ended
        room := min times.most chunkSize - 1
        ready
        kept := ⟨ready, o.octet⟩ :: r.kept }

/-- The reader when all octets of a pipe have been put away. -/
def run (pace : Nat → ReadTimes) (octets : List TimedOctet) : Reader :=
  octets.foldl (take pace) {}

/-- When and how a reader ends that has put all octets away; it does not end if nobody closes the
pipe. -/
def signal (pace : Nat → ReadTimes) (r : Reader) (closes : Option Nat) :
    Option (Nat × Except Host.SystemError Unit) :=
  let times := pace r.reads
  match r.fault.or (r.failure times) with
  | some (time, e) => some (time, .error e)
  | none => closes.map fun e => (max (r.ready + times.ask) e + times.keep, .ok ())

/-- What has been put away by time `t`. -/
def held (r : Reader) (t : Nat) : List UInt8 :=
  ((r.kept.filter (·.time ≤ t)).map (·.octet)).reverse

end Reader

end BindingCoverage.Extractor
