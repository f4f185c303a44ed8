import BindingCoverage.Extractor.Error
import BindingCoverage.Extractor.Reader
import BindingCoverage.Text.Utf8

/-!
# Running a process

A runner waits for a process to end, within its limits, and then for the ends of its two output
pipes. It looks at the process in intervals, unless it has no limits at all. At each look it
checks, in this order, whether the process has ended, whether the time is up, and whether it was
cancelled.

* When the time is up, or the run was cancelled, the process group is killed. The pipes then have a
  short grace to close.
* When the process has ended, the pipes may be held open by descendants until the time is up, or
  for the same grace if that is later; after that the group is killed and the time counts as up.

A `Schedule` says how long everything takes that the runner and its readers do, and what fails of
it. The process, the readers, the runner and whoever raises the flag act on their own, and every
order in which they can do so is that of some course and schedule: a statement about all of them is
one about every machine. `run` gives no result where the runner never returns.
-/

namespace BindingCoverage.Extractor

/-- Between two looks at the process. -/
def pollInterval : Nat := 10000000

/-- What the pipes get to close after the process group is killed. -/
def killGrace : Nat := 100000000

structure Limits where
  timeout : Option Duration := none
  /-- Whether there is a flag that cancels the run. -/
  cancellable : Bool := false
  deriving DecidableEq, Repr

/-! ## Moments -/

/-- A moment, in whole seconds from the origin of the clock and nanoseconds. -/
structure Instant where
  seconds : Int
  nanos : Nat
  deriving DecidableEq, Repr

/-- Seconds are kept in 64 bits, with a sign. -/
def greatestSecond : Int := 9223372036854775807

namespace Instant

/-- The moment `nanos` nanoseconds later, as long as its seconds fit. -/
def after? (i : Instant) (nanos : Nat) : Option Instant :=
  let total := i.nanos + nanos
  let seconds := i.seconds + (total / 1000000000 : Nat)
  if seconds ≤ greatestSecond then some ⟨seconds, total % 1000000000⟩ else none

end Instant

/-! ## Waiting for the process -/

/-- How long the runner takes for the parts of one look at the process. -/
structure PollTimes where
  /-- Before it asks whether the process has ended. -/
  look : Nat := 0
  /-- From there until it asks for the time. -/
  clock : Nat := 0
  /-- From there until it reads the flag. -/
  flag : Nat := 0
  deriving DecidableEq, Repr

/-- How long the runner takes for the parts of its wait for the end of a reader. -/
structure FinishTimes where
  /-- Before it begins to wait. -/
  ask : Nat := 0
  /-- From the signal until it goes on. -/
  wake : Nat := 0
  /-- How much longer than until the deadline it waits. -/
  late : Nat := 0
  deriving DecidableEq, Repr

structure Schedule where
  /-- When the process is started. -/
  start : Instant
  polls : Nat → PollTimes := fun _ => {}
  /-- When the flag is raised, if it is. -/
  cancel : Option Nat := none
  /-- Between a kill and the return of the call that waits for the process. -/
  reap : Nat := 0
  /-- Which of the calls that ask for the end of the process fails, and why. -/
  fault : Option (Nat × Host.SystemError) := none
  /-- Before the deadline for the pipes is set. -/
  deadline : Nat := 0
  finishes : Host.Stream → FinishTimes := fun _ => {}
  /-- Before the runner takes what was read. -/
  take : Nat := 0
  /-- How the readers of the pipes go on. -/
  paces : Host.Stream → Nat → ReadTimes := fun _ _ => {}

/-- What ends the wait for the process. -/
inductive Verdict where
  | exited (status : Host.ExitStatus)
  | timedOut (limit : Duration)
  | cancelled
  deriving DecidableEq, Repr

structure Waited where
  /-- What ended the wait, unless asking for the end of the process failed. -/
  verdict : Except Host.SystemError Verdict
  /-- When the process group was killed, if it was. -/
  kill : Option Nat
  /-- When the wait was over. -/
  now : Nat

namespace Schedule

/-- Why call number `n` that asks for the end of the process fails, if it does. -/
def failure (s : Schedule) (n : Nat) : Option Host.SystemError :=
  match s.fault with
  | some (k, e) => if k = n then some e else none
  | none => none

/-- When a flag that the runner looks at is raised. -/
def raise (s : Schedule) (l : Limits) : Option Nat := if l.cancellable then s.cancel else none

end Schedule

/-- What the clock and the flag say from time `now` on: when that was known, and the verdict if the
wait is to end. -/
def expired (l : Limits) (s : Schedule) (times : PollTimes) (now : Nat) : Nat × Option Verdict :=
  let now := now + times.clock
  match l.timeout.filter (·.nanos ≤ now) with
  | some limit => (now, some (.timedOut limit))
  | none =>
    let now := now + times.flag
    (now, if (s.raise l).any (· ≤ now) then some .cancelled else none)

/-- Looks at the process until something ends the wait, at most as often as `fuel` says. -/
def poll (l : Limits) (c : Course) (s : Schedule) : Nat → Nat → Nat → Option Waited
  | 0, _, _ => none
  | fuel + 1, index, now =>
    let times := s.polls index
    let now := now + times.look
    match s.failure index, c.endedBy now with
    | some e, _ => some ⟨.error e, none, now⟩
    | none, some status => some ⟨.ok (.exited status), none, now⟩
    | none, none =>
      match expired l s times now with
      | (now, none) => poll l c s fuel (index + 1) (now + pollInterval)
      | (now, some verdict) =>
        match s.failure (index + 1) with
        | some e => some ⟨.error e, some now, now + s.reap⟩
        | none => some ⟨.ok verdict, some now, now + s.reap⟩

/-- The wait for the process. -/
def wait (l : Limits) (c : Course) (s : Schedule) (fuel : Nat) : Option Waited :=
  if l.timeout.isNone && !l.cancellable then
    match s.failure 0, c.exit with
    | some e, _ => some ⟨.error e, none, 0⟩
    | none, some (e, status) => some ⟨.ok (.exited status), none, e⟩
    | none, none => none
  else poll l c s fuel 0 0

/-! ## Waiting for the pipes -/

/-- The wait for the signal of a reader: whether there was one in time, or how the reader failed,
and when the wait was over. Without a deadline it lasts until there is a signal. -/
def finish (times : FinishTimes) (deadline : Option Nat)
    (signal : Option (Nat × Except Host.SystemError Unit)) (now : Nat) :
    Option (Except Host.SystemError Bool × Nat) :=
  let now := now + times.ask
  let given (time : Nat) (end? : Except Host.SystemError Unit) :=
    some (end?.map fun () => true, max now time + times.wake)
  match deadline, signal with
  | none, none => none
  | none, some (time, end?) => given time end?
  | some d, none => some (.ok false, max now d + times.late)
  | some d, some (time, end?) =>
    if time ≤ max now d + times.late then given time end?
    else some (.ok false, max now d + times.late)

/-- The waits for the readers of several pipes, one after the other: whether all pipes were closed
in time, or which reader failed and how, and when the waits were over. -/
def finishAll (s : Schedule) (deadline : Option Nat)
    (signal : Host.Stream → Option (Nat × Except Host.SystemError Unit)) :
    List Host.Stream → Nat → Option (Except (Host.Stream × Host.SystemError) Bool × Nat)
  | [], now => some (.ok true, now)
  | x :: rest, now =>
    match finish (s.finishes x) deadline (signal x) now with
    | none => none
    | some (.error e, now) => some (.error (x, e), now)
    | some (.ok closed, now) =>
      match finishAll s deadline signal rest now with
      | none => none
      | some (others, now) => some (others.map (closed && ·), now)

/-- A run that is over. -/
structure Account where
  result : Except Error (List UInt8)
  /-- When the process group was killed. -/
  kills : List Nat
  /-- When the run was over. -/
  ended : Nat

inductive Outcome where
  | returned (account : Account)
  /-- A moment lies beyond what the clock can express. -/
  | overflow

/-- The deadline for the pipes at time `now`: nothing if a moment cannot be expressed, and no
deadline if there is no limit on a process that has ended. -/
def deadline (l : Limits) (s : Schedule) (verdict : Verdict) (now : Nat) : Option (Option Nat) :=
  match s.start.after? (now + killGrace), verdict, l.timeout with
  | none, _, _ => none
  | some _, .exited _, some limit =>
    match s.start.after? limit.nanos with
    | none => none
    | some _ => some (some (max limit.nanos (now + killGrace)))
  | some _, .exited _, none => some none
  | some _, _, _ => some (some (now + killGrace))

/-- The result of a run, from what was read of the pipes. -/
def conclude (program : String) (verdict : Verdict) (read : Host.Stream → List UInt8) :
    Except Error (List UInt8) :=
  match verdict with
  | .exited status =>
    if status.isSuccess then .ok (read .stdout)
    else .error (.failed program status (Utf8.lossy (read .stderr)))
  | .timedOut limit => .error (.timedOut program limit (Utf8.lossy (read .stderr)))
  | .cancelled => .error (.cancelled program (Utf8.lossy (read .stderr)))

/-- The verdict when the wait for the pipes is over. -/
def amend (l : Limits) (verdict : Verdict) (closed : Bool) : Verdict :=
  match verdict, closed, l.timeout with
  | .exited _, false, some limit => .timedOut limit
  | verdict, _, _ => verdict

/-- The reader of a pipe when the process group may be killed. -/
def readerOf (c : Course) (s : Schedule) (kill : Option Nat) (x : Host.Stream) : Reader :=
  .run (s.paces x) ((c.pipe x).written kill)

/-- The signal of the reader of a pipe when the process group may be killed. -/
def signalOf (c : Course) (s : Schedule) (kill : Option Nat) (x : Host.Stream) :
    Option (Nat × Except Host.SystemError Unit) :=
  (readerOf c s kill x).signal (s.paces x) ((c.pipe x).closing kill)

/-- Waits for the pipes of a process, for which the wait was over with a verdict, and concludes. -/
def drain (l : Limits) (program : String) (c : Course) (s : Schedule) (verdict : Verdict)
    (kill : Option Nat) (now : Nat) : Option Outcome :=
  let now := now + s.deadline
  match deadline l s verdict now with
  | none => some .overflow
  | some deadline =>
    match finishAll s deadline (signalOf c s kill) Host.Stream.all now with
    | none => none
    | some (.error (x, e), now) =>
      some (.returned ⟨.error (.read program x.name e), kill.toList, now⟩)
    | some (.ok closed, now) =>
      let amended := amend l verdict closed
      let kills := kill.toList ++ (if amended = verdict then [] else [now])
      let now := now + s.take
      some (.returned {
        result := conclude program amended fun x => (readerOf c s kills.head? x).held now
        kills
        ended := now })

/-- A number of looks at the process that is enough: after so many intervals the process has ended,
the time is up, the flag is raised, or looking has failed. It is zero if none of these ever
happens. -/
def looks (l : Limits) (c : Course) (s : Schedule) : Nat :=
  let until? := earlier (c.exit.map (·.1)) (earlier (l.timeout.map (·.nanos)) (s.raise l))
  (match until? with
    | some t => t / pollInterval + 2
    | none => 0) +
  match s.fault with
  | some (index, _) => index + 1
  | none => 0

/-- A whole run. -/
def run (l : Limits) (program : String) (c : Course) (s : Schedule) : Option Outcome :=
  match wait l c s (looks l c s) with
  | none => none
  | some ⟨.error e, kill, now⟩ =>
    some (.returned ⟨.error (.wait program e), kill.toList, now⟩)
  | some ⟨.ok verdict, kill, now⟩ => drain l program c s verdict kill now

end BindingCoverage.Extractor
