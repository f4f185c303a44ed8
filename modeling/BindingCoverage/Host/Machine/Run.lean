import BindingCoverage.Host.Machine.Channels
import BindingCoverage.Host.Machine.Image

/-!
# Running a machine

Every process goes on by itself until it has to wait for another one. In each step the process that
can go on first does so. A machine runs until no process can go on any more, up to a time if there
is one given, or until a number of steps is done; processes that are left then never end.
-/

namespace BindingCoverage.Host.Machine

/-- What a program does that was started by one of its names, with its arguments after that name
and its variables. -/
abbrev Installed := String → List String → Environment → Action

/-! ## The time that things take -/

def forkTime : Nat := 100000

/-- Before a child does anything. -/
def birthTime : Nat := 300000

def startTime : Nat := 1000000

def requestTime : Request → Nat
  | .pass _ => 0
  | .read _ _ | .write _ _ | .openFile _ _ | .change _ _ => 2000
  | .replace _ _ _ => startTime
  | _ => 500

/-- Before a process learns that it cannot go on as another program. -/
def failureTime : Nat := 2000

/-! ## Who can go on -/

/-- A child whose end its parent has not heard of. -/
def endedChild? (m : Machine) (p : Process) : Option (Nat × ExitStatus) :=
  m.processes.findSome? fun child =>
    if child.parent = p.number then child.ended.map (child.number, ·) else none

def hasChild (m : Machine) (p : Process) : Bool := m.processes.any (·.parent == p.number)

/-- When the wait for a child is over. -/
def waitEnd (m : Machine) (p : Process) (limit : Option Nat) : Option Nat :=
  if (m.endedChild? p).isSome || !m.hasChild p || !p.pending.isEmpty then some p.clock
  else limit.map (p.clock + ·)

/-- When a process can go on, as far as it depends on what others have done up to now. -/
def ready? (m : Machine) (p : Process) : Option Nat :=
  if p.stopped || !p.isAlive then none
  else
    match p.action with
    | .exit _ | .fork _ _ => some p.clock
    | .ask r _ =>
      match r with
      | .pass nanos => some (p.clock + nanos)
      | .stall => none
      | .read d _ => if m.mustWaitToRead p d then none else some p.clock
      | .write d s => if m.mustWaitToWrite p d s.length then none else some p.clock
      | .wait limit => m.waitEnd p limit
      | _ => some p.clock

/-- The process that can go on first, and when. -/
def nextProcess? (m : Machine) : Option (Nat × Process) :=
  m.processes.foldl (fun best p =>
    match m.ready? p, best with
    | none, best => best
    | some t, none => some (max t m.now, p)
    | some t, some (u, q) => if max t m.now < u then some (max t m.now, p) else some (u, q)) none

/-! ## Requests -/

/-- A process goes on with an action after some time. -/
def resume (m : Machine) (number time : Nat) (action : Action) : Machine :=
  m.update number fun p => { p with action, clock := m.now + time }

/-- The answer to a wait that is over. -/
def waited (m : Machine) (p : Process) : Waited × Machine :=
  match m.endedChild? p with
  | some (number, status) =>
    (.ended number status,
      { m with processes := m.processes.filter (·.number != number) })
  | none =>
    if !p.pending.isEmpty then (.interrupted, m)
    else if m.hasChild p then (.timeUp, m)
    else (.childless, m)

/-- A process goes on as another program. -/
def replace (installed : Installed) (m : Machine) (p : Process) (path : String)
    (arguments : List String) (environment : Environment) : Except SystemError Machine := do
  let (name, arguments) ← Image.start (m.filesFor p) path arguments
  let action := installed name arguments environment
  return (m.update p.number fun p =>
    { p with
      action
      clock := m.now + startTime
      slots := p.slots.filter (!·.2.closesOnReplace)
      dispositions := p.dispositions.filter (·.2 == .ignored)
      pending := [] }).noteReleases

def enter (m : Machine) (p : Process) (path : Path) : Except SystemError Unit × Machine :=
  match m.files.get? path with
  | some .directory => (.ok (), m.update p.number fun p => { p with working := path })
  | some _ => (.error .notADirectory, m)
  | none => (.error .notFound, m)

/-- A process makes a group of its own, unless its group has its number already. -/
def leave (m : Machine) (p : Process) : Except SystemError Unit × Machine :=
  if p.group = p.number then (.error .notPermitted, m)
  else (.ok (), (m.update p.number fun p => { p with group := p.number }).noteReleases)

/-- Carries out a request of a process. -/
def serve (installed : Installed) (m : Machine) (p : Process) :
    (r : Request) → (r.Reply → Action) → Machine
  | .replace path arguments environment, next =>
    match m.replace installed p path arguments environment with
    | .ok m => m
    | .error e => m.resume p.number failureTime (next e)
  | r, next =>
    let (reply, m) : r.Reply × Machine :=
      match r with
      | .pass _ | .stall => ((), m)
      | .read d limit => m.read p d limit
      | .write d s => m.write p d s
      | .openFile path o =>
        match m.openFile p path o with
        | .ok (d, m) => (.ok d, m)
        | .error e => (.error e, m)
      | .duplicate d least closesOnReplace => m.duplicate p d least closesOnReplace
      | .assign source target => m.assign p source target
      | .close d => m.close p d
      | .pipe => m.makePipe p.number
      | .wait _ => m.waited p
      | .signal target signal => m.send p target signal
      | .dispose signal d => ((), m.update p.number (·.withDisposition signal d))
      | .caught => (p.pending, m.update p.number fun p => { p with pending := [] })
      | .identity => (⟨p.number, p.parent, p.group⟩, m)
      | .leave => m.leave p
      | .files => (m.filesFor p, m)
      | .size d => (m.size p d, m)
      | .change path node =>
        ((), m.record p path (match node with
          | some node => .put node
          | none => .remove))
      | .enter path => m.enter p path
      | .replace _ _ _ => (.notExecutable, m)
    m.resume p.number (requestTime r) (next reply)

/-- A child like its parent. -/
def split (m : Machine) (p : Process) (child : Action) (next : Nat → Action) : Machine :=
  let number := m.next
  let born : Process :=
    { p with
      number, parent := p.number, action := child, clock := m.now + birthTime, pending := [] }
  let m := { m with next := number + 1, processes := m.processes ++ [born] }
  (m.resume p.number forkTime (next number)).noteReleases

/-- One step, if any process can go on before a horizon. -/
def step? (installed : Installed) (horizon : Option Nat) (m : Machine) : Option Machine := do
  let (now, p) ← m.nextProcess?
  if horizon.any (· < now) then none
  let m := { m with now }
  return match p.action with
    | .exit status => m.finish p.number status
    | .fork child next => m.split p child next
    | .ask r next => m.serve installed p r next

/-- The steps that are left, up to a number of them, and until so many octets were read and
written. -/
def run (installed : Installed) (horizon : Option Nat) (most : Nat) : Nat → Machine → Machine
  | 0, m => m
  | fuel + 1, m =>
    if most < m.moved then m
    else
      match m.step? installed horizon with
      | none => m
      | some m => run installed horizon most fuel m

/-- A machine with a first process that has nothing to read, and whose two output streams are the
output pipes. -/
def initial (files : Files) (action : Action) : Machine :=
  let process : Process := {
    number := first
    parent := starter
    group := first
    action
    clock := startTime
    slots := [(0, ⟨0, false⟩), (1, ⟨1, false⟩), (2, ⟨2, false⟩)]
    working := files.working }
  ({ processes := [process]
     next := first + 1
     opened := #[⟨.device .null, true, false, false, 0⟩, ⟨.output .stdout, false, true, false, 0⟩,
       ⟨.output .stderr, false, true, false, 0⟩]
     files } : Machine).noteReleases

end BindingCoverage.Host.Machine
