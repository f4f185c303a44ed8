import BindingCoverage.Extractor.Process
import BindingCoverage.Verification.Basic

/-!
# Verification on a host

The services that the settings ask for: scratch files in their directory, and an extractor with
their time limit.
-/

namespace BindingCoverage.Verification

/-- Scratch files in a storage, with an extractor that is given. -/
def scratchServices {σ : Type} (storage : Scratch.Storage σ)
    (extract : Extractor.Invocation → Activity σ Reply) : Services σ where
  store l := do
    match ← storage.create l with
    | .ok file => return .given file
    | .error e => return .failed e
  extract := extract
  discard := storage.discard

/-- The limits that the settings put on the extractor. -/
def limitsOf (settings : Settings) : Extractor.Limits where
  timeout := settings.timeoutSecs.map fun n => .ofSeconds n.toNat

/-- Runs the extractor as a process on the host. A run that never returns gives no reply. -/
def extractOn (schedule : Extractor.Schedule) (settings : Settings) (i : Extractor.Invocation) :
    StateM Host.Files Reply := fun files =>
  match Extractor.perform (limitsOf settings) schedule files i with
  | some (some p) =>
    match p.result with
    | .ok octets => (.given octets, p.files)
    | .error e => (.failed e, p.files)
  | _ => (.brokenOff, files)

/-- Where the settings keep scratch files on a host. -/
def storageOf (settings : Settings) : Scratch.Storage Host.Files where
  files := .whole
  directory := settings.scratchDir.getD Scratch.systemDirectory

def onHost (schedule : Extractor.Schedule) (settings : Settings) : Services Host.Files :=
  scratchServices (storageOf settings) fun i => .atomic (extractOn schedule settings i)

end BindingCoverage.Verification
