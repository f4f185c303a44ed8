import BindingCoverage.Host.ExitStatus
import BindingCoverage.Host.Files

/-!
# Programs

What a process does is a tree of actions: it ends, or it splits in two, or it makes a request of
the system and goes on as the reply says. A `Program` gives a value to whatever comes after it, and
`Program` is the monad of such trees.

What is read and written is an octet string; so are all names that programs work with.
-/

namespace BindingCoverage.Host

/-- What a process wants to be done with a signal. -/
inductive Disposition where
  | standard
  | ignored
  | caught
  deriving DecidableEq, Repr

/-- How a file is opened. -/
structure Opening where
  reads : Bool := false
  writes : Bool := false
  /-- Whether the file is made if there is none. -/
  creates : Bool := false
  /-- Whether there must be none. -/
  exclusive : Bool := false
  empties : Bool := false
  /-- Whether everything is written at the end. -/
  appends : Bool := false
  deriving DecidableEq, Repr

/-- What ends a wait for a child. -/
inductive Waited where
  | ended (process : Nat) (status : ExitStatus)
  | childless
  /-- A signal that is caught has come. -/
  | interrupted
  | timeUp
  deriving DecidableEq, Repr

/-- The variables that a program is started with. -/
abbrev Environment := List (String × String)

/-- Who a process is. -/
structure Identity where
  process : Nat
  parent : Nat
  group : Nat
  deriving DecidableEq, Repr

inductive Request where
  /-- Lets time pass. -/
  | pass (nanos : Nat)
  /-- Never goes on. -/
  | stall
  | read (descriptor limit : Nat)
  | write (descriptor : Nat) (octets : String)
  | openFile (path : String) (opening : Opening)
  /-- A second descriptor, with a number that is not less than the given one. -/
  | duplicate (descriptor least : Nat) (closesOnReplace : Bool)
  /-- Makes the second descriptor a copy of the first. -/
  | assign (source target : Nat)
  | close (descriptor : Nat)
  /-- A new pipe: the end to read from and the end to write to. -/
  | pipe
  /-- Waits for any child, for a limited time if there is a limit. -/
  | wait (limit : Option Nat)
  /-- Sends a signal to a process, or to a group if the number is not positive. -/
  | signal (target : Int) (signal : Nat)
  | dispose (signal : Nat) (disposition : Disposition)
  /-- The signals that were caught since the last such request. -/
  | caught
  | identity
  /-- Leaves the group for a new one. -/
  | leave
  /-- The files as the process sees them. -/
  | files
  /-- The size of the file that a descriptor leads to, if it leads to a file. -/
  | size (descriptor : Nat)
  /-- Puts a node in a place, or removes what is there. -/
  | change (path : Path) (node : Option Node)
  /-- Makes a directory the working one. -/
  | enter (path : Path)
  /-- Goes on as another program. There is a reply only if that fails. -/
  | replace (path : String) (arguments : List String) (environment : Environment)
  deriving DecidableEq, Repr

/-- The replies to a request. -/
abbrev Request.Reply : Request → Type
  | .pass _ | .stall | .dispose _ _ | .change _ _ => Unit
  | .read _ _ => Except SystemError String
  | .write _ _ | .assign _ _ | .close _ | .signal _ _ | .leave | .enter _ => Except SystemError Unit
  | .openFile _ _ | .duplicate _ _ _ => Except SystemError Nat
  | .pipe => Nat × Nat
  | .wait _ => Waited
  | .caught => List Nat
  | .identity => Identity
  | .files => Files
  | .size _ => Option Nat
  | .replace _ _ _ => SystemError

inductive Action where
  | exit (status : ExitStatus)
  /-- A child begins, and its number is known to the process that goes on. -/
  | fork (child : Action) (next : Nat → Action)
  | ask (request : Request) (next : request.Reply → Action)

instance : Inhabited Action := ⟨.exit (.exited 0)⟩

/-- A program that gives a value to what comes after it. -/
def Program (α : Type) : Type := (α → Action) → Action

namespace Program

instance : Monad Program where
  pure a := fun next => next a
  bind p f := fun next => p fun a => f a next

instance {α : Type} : Inhabited (Program α) := ⟨fun _ => default⟩

def ask (r : Request) : Program r.Reply := fun next => .ask r next

/-- Ends the process. -/
def exit {α : Type} (code : Nat) : Program α := fun _ => .exit (.exited code)

/-- The process of a program whose value is its exit code. -/
def toAction (p : Program Nat) : Action := p fun code => .exit (.exited code)

/-- Starts a child; gives its number. -/
def fork (child : Program Nat) : Program Nat := fun next => .fork child.toAction next

/-- Repeats a step, as often as `fuel` says, until it gives a result. The step is given a state to
begin with, and gives another one. -/
def iterate {σ α : Type} (step : σ → Program (σ ⊕ α)) : Nat → σ → Program α
  | 0, _ => fun _ => .ask .stall fun _ => .exit (.exited 0)
  | fuel + 1, s => do
    match ← step s with
    | .inl s => iterate step fuel s
    | .inr a => return a

/-- More steps than any process gets to do. -/
def unbounded : Nat := 1000000000000

/-- Repeats a step until it gives a result. -/
def loop {σ α : Type} (start : σ) (step : σ → Program (σ ⊕ α)) : Program α :=
  iterate step unbounded start

/-! ## Reading and writing -/

/-- What is written at once goes into a pipe as a whole. -/
def blockSize : Nat := 4096

/-- Characters in blocks. -/
def blocksOf (s : List Char) : List String :=
  if s.isEmpty then []
  else String.ofList (s.take blockSize) :: blocksOf (s.drop blockSize)
termination_by s.length
decreasing_by
  rename_i h
  have : 0 < s.length := by cases s <;> simp_all
  simp only [List.length_drop, blockSize]
  omega

/-- A text in blocks. A short one is a block itself. -/
def blocks (s : String) : List String :=
  if s.isEmpty then [] else if s.length ≤ blockSize then [s] else blocksOf s.toList

/-- Writes blocks, up to the first that cannot be written. -/
def writeBlocks (descriptor : Nat) : List String → Program (Except SystemError Unit)
  | [] => return .ok ()
  | block :: rest => do
    match ← ask (.write descriptor block) with
    | .ok () => writeBlocks descriptor rest
    | .error e => return .error e

def write (descriptor : Nat) (s : String) : Program (Except SystemError Unit) :=
  writeBlocks descriptor (blocks s)

/-- How much is read at once. -/
def readSize : Nat := 65536

def read (descriptor : Nat) : Program (Except SystemError String) :=
  ask (.read descriptor readSize)

/-- Everything that can be read. -/
def readAll (descriptor : Nat) : Program (Except SystemError String) :=
  loop [] fun (parts : List String) => do
    match ← read descriptor with
    | .error e => return .inr (.error e)
    | .ok "" => return .inr (.ok (String.join parts.reverse))
    | .ok s => return .inl (s :: parts)

def pass (nanos : Nat) : Program Unit := ask (.pass nanos)

def stall {α : Type} : Program α := fun _ => .ask .stall fun _ => .exit (.exited 0)

end Program

end BindingCoverage.Host
