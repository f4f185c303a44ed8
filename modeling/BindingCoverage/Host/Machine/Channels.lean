import BindingCoverage.Host.Machine.Signals
import BindingCoverage.Text.Octets

/-!
# Reading and writing

Open files, and pipes between processes. A process that reads from an empty pipe has to wait as
long as somebody may write to it, and one that writes to a full one as long as somebody may read.
-/

namespace BindingCoverage.Host.Machine

/-! ## Opening -/

/-- A descriptor for an open file. -/
def withOpenFile (m : Machine) (number : Nat) (o : OpenFile) : Nat × Machine :=
  let descriptor := ((m.process? number).map (·.freeDescriptor 0)).getD 0
  let m := { m with opened := m.opened.push o }
  (descriptor, m.update number (·.withSlot descriptor ⟨m.opened.size - 1, false⟩))

/-- Opens what stands at a place. -/
def openAt (m : Machine) (p : Process) (path : Path) (o : Opening) :
    Except SystemError (Channel × Machine) :=
  match m.files.get? path with
  | none =>
    if o.creates then .ok (.file path, m.record p path (.put (.file [] false)))
    else .error .notFound
  | some node =>
    if o.creates && o.exclusive then .error .alreadyThere
    else
      match node with
      | .directory => if o.writes then .error .isADirectory else .ok (.directory path, m)
      | .device kind => .ok (.device kind, m)
      | .program _ => if o.writes then .error .textBusy else .ok (.device .null, m)
      | .file octets executable =>
        if o.empties && !octets.isEmpty then
          .ok (.file path, m.record p path (.put (.file [] executable)))
        else .ok (.file path, m)
      | .descriptor d =>
        match (p.slot? d).bind m.openFile? with
        | none => .error .notFound
        | some opened =>
          match opened.channel with
          | .file other =>
            match m.files.get? other with
            | some (.file octets executable) =>
              if o.empties && !octets.isEmpty then
                .ok (.file other, m.record p other (.put (.file [] executable)))
              else .ok (.file other, m)
            | _ => .error .notFound
          | channel => .ok (channel, m)

def openFile (m : Machine) (p : Process) (path : String) (o : Opening) :
    Except SystemError (Nat × Machine) := do
  let text := Octets.text path
  let place ← (m.filesFor p).place text
  if o.creates && text.toList.getLast? = some '/' then throw .isADirectory
  let (channel, m) ← m.openAt p place o
  return m.withOpenFile p.number ⟨channel, o.reads, o.writes, o.appends, 0⟩

/-- Makes a pipe: the descriptors of its two ends. -/
def makePipe (m : Machine) (number : Nat) : (Nat × Nat) × Machine :=
  let index := m.pipes.size
  let m := { m with pipes := m.pipes.push {} }
  let (reading, m) := m.withOpenFile number ⟨.reading index, true, false, false, 0⟩
  let (writing, m) := m.withOpenFile number ⟨.writing index, false, true, false, 0⟩
  ((reading, writing), m)

/-! ## Reading -/

/-- The open file of a descriptor that is read from. -/
def readable? (m : Machine) (p : Process) (descriptor : Nat) : Option (Nat × OpenFile) := do
  let slot ← p.slot? descriptor
  let o ← m.openFile? slot
  if o.reads then some (slot.opened, o) else none

/-- Whether a process has to wait before it can read. -/
def mustWaitToRead (m : Machine) (p : Process) (descriptor : Nat) : Bool :=
  match m.readable? p descriptor with
  | some (_, ⟨.reading pipe, _, _, _, _⟩) =>
    (m.pipes[pipe]?).any (·.size == 0) && m.anyHasOpen (· == .writing pipe)
  | _ => false

/-- Takes octets out of a pipe. -/
def takeParts (limit : Nat) : List String → List String × List String
  | [] => ([], [])
  | part :: rest =>
    if part.length ≤ limit then
      let (taken, kept) := takeParts (limit - part.length) rest
      (part :: taken, kept)
    else if limit = 0 then ([], part :: rest)
    else
      let cs := part.toList
      ([String.ofList (cs.take limit)], String.ofList (cs.drop limit) :: rest)

def read (m : Machine) (p : Process) (descriptor limit : Nat) :
    Except SystemError String × Machine :=
  match m.readable? p descriptor with
  | none => (.error .badDescriptor, m)
  | some (index, o) =>
    match o.channel with
    | .output _ | .writing _ => (.error .badDescriptor, m)
    | .directory _ => (.error .isADirectory, m)
    | .device .null => (.ok "", m)
    | .device _ =>
      (.ok (String.ofList (List.replicate limit '\x00')), { m with moved := m.moved + limit })
    | .file path =>
      match m.files.get? path with
      | some (.file octets _) =>
        let s := Octets.ofList ((octets.drop o.offset).take limit)
        let o := { o with offset := o.offset + s.length }
        (.ok s, { m with opened := m.opened.setIfInBounds index o, moved := m.moved + s.length })
      | _ => (.ok "", m)
    | .reading pipe =>
      match m.pipes[pipe]? with
      | none => (.ok "", m)
      | some buffer =>
        let (taken, kept) := takeParts limit buffer.parts
        let s := String.join taken
        let buffer : PipeBuffer := ⟨kept, buffer.size - s.length⟩
        (.ok s, { m with pipes := m.pipes.setIfInBounds pipe buffer, moved := m.moved + s.length })

/-! ## Writing -/

def writable? (m : Machine) (p : Process) (descriptor : Nat) : Option (Nat × OpenFile) := do
  let slot ← p.slot? descriptor
  let o ← m.openFile? slot
  if o.writes then some (slot.opened, o) else none

/-- Whether a process has to wait before it can write so many octets. -/
def mustWaitToWrite (m : Machine) (p : Process) (descriptor count : Nat) : Bool :=
  match m.writable? p descriptor with
  | some (_, ⟨.writing pipe, _, _, _, _⟩) =>
    (m.pipes[pipe]?).any (fun b => pipeCapacity < b.size + count) &&
      m.anyHasOpen (· == .reading pipe)
  | _ => false

def write (m : Machine) (p : Process) (descriptor : Nat) (s : String) :
    Except SystemError Unit × Machine :=
  match m.writable? p descriptor with
  | none => (.error .badDescriptor, m)
  | some (index, o) =>
    let m := { m with moved := m.moved + s.length }
    match o.channel with
    | .reading _ | .directory _ => (.error .badDescriptor, m)
    | .device .full => (.error .storageFull, m)
    | .device _ => (.ok (), m)
    | .output stream =>
      (.ok (), { m with written := ⟨m.moment p, stream, s⟩ :: m.written })
    | .file path =>
      match m.files.get? path with
      | some (.file old _) =>
        let offset := if o.appends then old.length else o.offset
        let m := m.record p path (.splice offset (Octets.toList s))
        let o := { o with offset := offset + s.length }
        (.ok (), { m with opened := m.opened.setIfInBounds index o })
      | _ => (.ok (), m)
    | .writing pipe =>
      if m.anyHasOpen (· == .reading pipe) then
        let buffer := m.pipes[pipe]?.getD {}
        let buffer : PipeBuffer := ⟨buffer.parts ++ [s], buffer.size + s.length⟩
        (.ok (), { m with pipes := m.pipes.setIfInBounds pipe buffer })
      else (.error .brokenPipe, m.deliver Signal.brokenPipe p.number)

/-! ## Descriptors -/

def duplicate (m : Machine) (p : Process) (descriptor least : Nat) (closesOnReplace : Bool) :
    Except SystemError Nat × Machine :=
  match p.slot? descriptor with
  | none => (.error .badDescriptor, m)
  | some slot =>
    let free := p.freeDescriptor least
    (.ok free, m.update p.number (·.withSlot free ⟨slot.opened, closesOnReplace⟩))

def assign (m : Machine) (p : Process) (source target : Nat) :
    Except SystemError Unit × Machine :=
  match p.slot? source with
  | none => (.error .badDescriptor, m)
  | some slot =>
    if source = target then (.ok (), m)
    else (.ok (), (m.update p.number (·.withSlot target ⟨slot.opened, false⟩)).noteReleases)

def close (m : Machine) (p : Process) (descriptor : Nat) : Except SystemError Unit × Machine :=
  match p.slot? descriptor with
  | none => (.error .badDescriptor, m)
  | some _ => (.ok (), (m.update p.number (·.withoutSlot descriptor)).noteReleases)

/-- The size of the file that a descriptor leads to. -/
def size (m : Machine) (p : Process) (descriptor : Nat) : Option Nat := do
  match (← (p.slot? descriptor).bind m.openFile?).channel with
  | .file path =>
    match m.files.get? path with
    | some (.file octets _) => some octets.length
    | _ => none
  | _ => none

end BindingCoverage.Host.Machine
