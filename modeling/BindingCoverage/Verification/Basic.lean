import BindingCoverage.Activity
import BindingCoverage.Coverage.Registry
import BindingCoverage.Dump.Collector
import BindingCoverage.Extractor.Error
import BindingCoverage.Extractor.Invocation
import BindingCoverage.Scratch

/-!
# Verification

The declarations of a library are found in steps: its stub is written to a scratch file, the
extractor runs on that file, what the extractor wrote is decoded, and the scratch file is removed.
A registration then records the declarations under the symbol prefix of the library.

What is done outside is left to `Services`, whose state may be anything and whose activities may
take any steps, so what is shown for all services holds for every way that files and extractors
behave.
-/

namespace BindingCoverage.Verification

/-- How something ends that may fail, or break off and take along whoever waits for it. -/
inductive Answer (ε α : Type) where
  | given (a : α)
  | failed (e : ε)
  | brokenOff
  deriving DecidableEq, Repr

namespace Answer

variable {ε α β : Type}

def map (f : α → β) : Answer ε α → Answer ε β
  | given a => given (f a)
  | failed e => failed e
  | brokenOff => brokenOff

/-- That something was given, without what it is. -/
def outcome : Answer ε α → Answer ε Unit := map fun _ => ()

end Answer

inductive Error where
  | unknownLibrary (e : UnknownLibrary)
  /-- A failure of the system, or one that counts as such. -/
  | system (e : Scratch.Error)
  | extractor (e : Extractor.Error)
  | dump (e : Dump.Error)
  | registry (e : EmptyPrefix)
  deriving DecidableEq, Repr

namespace Error

def message : Error → String
  | .unknownLibrary e => e.message
  | .system e => e.message
  | .extractor e => e.message
  | .dump e => e.message
  | .registry e => e.message

/-- The messages of the causes below an error, outermost first. -/
def causes : Error → List String
  | .extractor e => e.causes
  | .dump e => e.causes
  | _ => []

end Error

/-- How the run of the extractor ends. -/
abbrev Reply := Answer Extractor.Error (List UInt8)

structure Services (σ : Type) where
  /-- Writes the stub of a library to a scratch file. -/
  store : Library → Activity σ (Answer Scratch.Error Scratch.File)
  extract : Extractor.Invocation → Activity σ Reply
  /-- Removes a scratch file. -/
  discard : Scratch.File → Activity σ Unit

/-- What the reply of the extractor says about the declarations. -/
def decodeReply : Reply → Answer Error DeclarationSet
  | .given octets =>
    match Dump.decodeOctets octets with
    | .ok s => .given s
    | .error e => .failed (.dump e)
  | .failed e => .failed (.extractor e)
  | .brokenOff => .brokenOff

section

variable {σ : Type} (services : Services σ) (settings : Settings)

/-- Finds the declarations of a library. The scratch file is removed however the extractor ends. -/
def declarations (l : Library) : Activity σ (Answer Error DeclarationSet) := do
  match ← services.store l with
  | .failed e => return .failed (.system e)
  | .brokenOff => return .brokenOff
  | .given file =>
    let reply ← services.extract (.extract settings file.text)
    let answer := decodeReply reply
    services.discard file
    return answer

end

/-- The registry and what is outside. -/
structure World (σ : Type) where
  registry : Registry
  outside : σ

namespace World

variable {σ : Type}

def registryPart : Part (World σ) Registry where
  get := registry
  set registry w := { w with registry }

def outsidePart : Part (World σ) σ where
  get := outside
  set outside w := { w with outside }

end World

/-- Records the declarations of a library, and gives them back. -/
def record (l : Library) (s : DeclarationSet) : StateM Registry (Answer Error DeclarationSet) :=
  fun r =>
    match r.register l.symbolPrefix s with
    | .ok r => (.given s, r)
    | .error e => (.failed (.registry e), r)

section

variable {σ : Type} (services : Services σ) (settings : Settings)

/-- Finds the declarations of a library, registers them, and gives them. -/
def registered (l : Library) : Activity (World σ) (Answer Error DeclarationSet) := do
  match ← (declarations services settings l).on World.outsidePart with
  | .given s => .atomic (World.registryPart.lift (record l s))
  | .failed e => return .failed e
  | .brokenOff => return .brokenOff

/-- Finds the declarations of a library and registers them. -/
def register (l : Library) : Activity (World σ) (Answer Error Unit) :=
  Answer.outcome <$> registered services settings l

/-- Registers the library with a key. An unknown key is refused before anything else happens. -/
def registerKey (key : String) : Activity (World σ) (Answer Error Unit) :=
  match Library.ofKey key with
  | .error e => return .failed (.unknownLibrary e)
  | .ok l => register services settings l

end

end BindingCoverage.Verification
