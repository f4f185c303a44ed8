import BindingCoverage.Host.Machine.Basic

/-!
# The end of processes

A process ends by itself or by a signal. Its descriptors are closed, its children belong to nobody,
and it is kept until its parent has asked how it ended.

Every process of a group gets a signal that is sent to the group. What a signal does depends on the
disposition: one that is caught is noted, one that is ignored does nothing, and one that is left to
the standard ends the process, stops it, lets it go on, or does nothing either.
-/

namespace BindingCoverage.Host.Machine

/-- Whether somebody may still ask how a process ended. -/
def isAwaited (m : Machine) (p : Process) : Bool :=
  (m.process? p.parent).any (·.isAlive)

/-- Ends a process. -/
def finish (m : Machine) (number : Nat) (status : ExitStatus) : Machine :=
  let m := m.update number fun p => { p with ended := some status, slots := [], stopped := false }
  let m := { m with
    exit := if number = first then m.exit.or (some (m.now, status)) else m.exit }
  { m with processes := m.processes.filter fun p => p.isAlive || m.isAwaited p }.noteReleases

/-- What a signal does to one process. -/
def deliver (m : Machine) (signal number : Nat) : Machine :=
  match m.process? number with
  | none => m
  | some p =>
    let resumed := fun m : Machine => m.update number fun p => { p with stopped := false }
    let certain := signal = Signal.kill || signal = Signal.stop
    match if certain then .standard else p.disposition signal with
    | .ignored => if signal = Signal.resume then resumed m else m
    | .caught =>
      let m := if signal = Signal.resume then resumed m else m
      m.update number fun p =>
        { p with pending := if p.pending.contains signal then p.pending else p.pending ++ [signal] }
    | .standard =>
      match Signal.effect signal with
      | .none => m
      | .resume => resumed m
      | .stop => m.update number fun p => { p with stopped := true }
      | .terminate => if p.isAlive then m.finish number (.signaled signal) else m

/-- The processes that a number stands for in the eyes of `sender`. -/
def targets (m : Machine) (sender : Process) (target : Int) : List Nat :=
  let inGroup (group : Nat) : List Nat :=
    (m.processes.filter (·.group == group)).map (·.number)
  if 0 < target then (m.process? target.toNat).toList.map (·.number)
  else if target = 0 then inGroup sender.group
  else if target = -1 then (m.processes.map (·.number)).filter (· != sender.number)
  else inGroup (-target).toNat

/-- Sends a signal; the number zero only asks whether there is anybody to get it. -/
def send (m : Machine) (sender : Process) (target : Int) (signal : Nat) :
    Except SystemError Unit × Machine :=
  if Signal.greatest < signal then (.error .invalidArgument, m)
  else
    match m.targets sender target with
    | [] => (.error .noProcess, m)
    | numbers =>
      (.ok (), if signal = 0 then m else numbers.foldl (fun m n => m.deliver signal n) m)

end BindingCoverage.Host.Machine
