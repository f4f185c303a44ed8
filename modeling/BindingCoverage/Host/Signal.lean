/-!
# Signals

The signals that one process sends to another, by their numbers: their names, the texts that are
shown for them, and what they do to a process that has made no arrangements.
-/

namespace BindingCoverage.Host.Signal

/-- The names of the signals from 1 on, without the `SIG` that they begin with in full, and their
texts. -/
def known : List (Nat × String × String) := [
  (1, "HUP", "Hangup"), (2, "INT", "Interrupt"), (3, "QUIT", "Quit"),
  (4, "ILL", "Illegal instruction"), (5, "TRAP", "Trace/breakpoint trap"), (6, "ABRT", "Aborted"),
  (7, "BUS", "Bus error"), (8, "FPE", "Floating point exception"), (9, "KILL", "Killed"),
  (10, "USR1", "User defined signal 1"), (11, "SEGV", "Segmentation fault"),
  (12, "USR2", "User defined signal 2"), (13, "PIPE", "Broken pipe"), (14, "ALRM", "Alarm clock"),
  (15, "TERM", "Terminated"), (16, "STKFLT", "Stack fault"), (17, "CHLD", "Child exited"),
  (18, "CONT", "Continued"), (19, "STOP", "Stopped (signal)"), (20, "TSTP", "Stopped"),
  (21, "TTIN", "Stopped (tty input)"), (22, "TTOU", "Stopped (tty output)"),
  (23, "URG", "Urgent I/O condition"), (24, "XCPU", "CPU time limit exceeded"),
  (25, "XFSZ", "File size limit exceeded"), (26, "VTALRM", "Virtual timer expired"),
  (27, "PROF", "Profiling timer expired"), (28, "WINCH", "Window changed"),
  (29, "IO", "I/O possible"), (30, "PWR", "Power failure"), (31, "SYS", "Bad system call")]

/-- The greatest number of a signal. -/
def greatest : Nat := 64

/-- The name of a signal without its first three letters. -/
def shortName? (signal : Nat) : Option String := (known.find? (·.1 == signal)).map (·.2.1)

/-- The signal with a short name. -/
def ofShortName? (name : String) : Option Nat := (known.find? (·.2.1 == name)).map (·.1)

/-- The signal that a text names, by its number or by its name in small or capital letters. -/
def ofText? (text : String) : Option Nat :=
  if !text.isEmpty && text.toList.all Char.isDigit then text.toNat?.filter (· ≤ greatest)
  else
    let name := text.toUpper
    (ofShortName? name).or (if name.startsWith "SIG" then
      ofShortName? (String.ofList (name.toList.drop 3)) else none)

/-- What is shown of a process that a signal ended. -/
def text (signal : Nat) : String :=
  match known.find? (·.1 == signal) with
  | some (_, _, text) => text
  | none =>
    if 34 ≤ signal ∧ signal ≤ greatest then s!"Real-time signal {signal - 34}"
    else s!"Unknown signal {signal}"

inductive Effect where
  | none
  | stop
  | resume
  | terminate
  deriving DecidableEq, Repr

/-- What a signal does to a process that has made no arrangements for it. -/
def effect (signal : Nat) : Effect :=
  if signal = 17 ∨ signal = 23 ∨ signal = 28 then .none
  else if signal = 18 then .resume
  else if 19 ≤ signal ∧ signal ≤ 22 then .stop
  else .terminate

def hangUp : Nat := 1

def interrupt : Nat := 2

def quit : Nat := 3

def kill : Nat := 9

def brokenPipe : Nat := 13

def terminate : Nat := 15

def child : Nat := 17

def resume : Nat := 18

def stop : Nat := 19

end BindingCoverage.Host.Signal
