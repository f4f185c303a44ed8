import BindingCoverage.Extractor.Duration
import BindingCoverage.Host.ExitStatus
import BindingCoverage.Host.SystemError

/-!
# Errors of running a program
-/

namespace BindingCoverage.Extractor

inductive Error where
  | spawn (program : String) (e : Host.SystemError)
  | wait (program : String) (e : Host.SystemError)
  | read (program stream : String) (e : Host.SystemError)
  | failed (program : String) (status : Host.ExitStatus) (stderr : String)
  | timedOut (program : String) (after : Duration) (stderr : String)
  | cancelled (program stderr : String)
  deriving DecidableEq, Repr

namespace Error

def message : Error → String
  | .spawn program e => s!"failed to spawn {program}: {e.message}"
  | .wait program e => s!"failed waiting on {program}: {e.message}"
  | .read program stream e => s!"failed reading {stream} of {program}: {e.message}"
  | .failed program status stderr => s!"{program} failed with {status.text}, stderr:\n{stderr}"
  | .timedOut program after stderr =>
    s!"{program} timed out after {after.text}, stderr:\n{stderr}"
  | .cancelled program stderr => s!"{program} was cancelled, stderr:\n{stderr}"

/-- The messages of the causes below an error. -/
def causes : Error → List String
  | .spawn _ e | .wait _ e | .read _ _ e => [e.message]
  | _ => []

/-- What the program wrote to its standard error, if it was started. -/
def stderr? : Error → Option String
  | .failed _ _ stderr | .timedOut _ _ stderr | .cancelled _ stderr => some stderr
  | _ => none

end Error

end BindingCoverage.Extractor
