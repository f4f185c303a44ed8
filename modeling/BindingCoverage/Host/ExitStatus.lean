import BindingCoverage.Host.Signal

/-!
# Exit statuses

How a process ended, as the 32-bit word that the system reports: the lowest seven bits are the
signal that ended it, or zero; the eighth bit says that its memory was dumped; the next eight bits
are its exit code. A word of no known meaning is shown as a signed number.
-/

namespace BindingCoverage.Host

structure ExitStatus where
  word : UInt32
  deriving DecidableEq, Repr

/-- A signal with its name, if it has one. -/
def Signal.numberText (signal : Nat) : String :=
  match Signal.shortName? signal with
  | some name => s!"{signal} (SIG{name})"
  | none => toString signal

namespace ExitStatus

def exited (code : Nat) : ExitStatus := ⟨UInt32.ofNat (code % 256 * 256)⟩

def signaled (signal : Nat) : ExitStatus := ⟨UInt32.ofNat (signal % 128)⟩

def bits (s : ExitStatus) : Nat := s.word.toNat

/-- The exit code of a process that no signal ended. -/
def code? (s : ExitStatus) : Option Nat :=
  if s.bits % 128 = 0 then some (s.bits / 256 % 256) else none

/-- The signal that ended a process. -/
def signal? (s : ExitStatus) : Option Nat :=
  if s.bits % 128 ≠ 0 ∧ s.bits % 128 ≠ 127 then some (s.bits % 128) else none

/-- The signal that stopped a process, which has not ended then. -/
def stopSignal? (s : ExitStatus) : Option Nat :=
  if s.bits % 256 = 127 then some (s.bits / 256 % 256) else none

def dumpedMemory (s : ExitStatus) : Bool := s.bits / 128 % 2 = 1

/-- A process succeeds when it exits with code zero. -/
def isSuccess (s : ExitStatus) : Bool := s.word = 0

def text (s : ExitStatus) : String :=
  match s.code?, s.signal?, s.stopSignal? with
  | some code, _, _ => s!"exit status: {code}"
  | none, some signal, _ =>
    "signal: " ++ Signal.numberText signal ++ (if s.dumpedMemory then " (core dumped)" else "")
  | none, none, some signal => "stopped (not terminated) by signal: " ++ Signal.numberText signal
  | none, none, none =>
    if s.word = 0xFFFF then "continued (WIFCONTINUED)"
    else
      s!"unrecognised wait status: {s.word.toInt32.toInt} 0x" ++
        String.ofList (Nat.toDigits 16 s.bits)

end ExitStatus

end BindingCoverage.Host
