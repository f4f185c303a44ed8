import BindingCoverage.Verification.Basic

/-!
# Batches

Several libraries are registered at once, each by a pipeline of its own. The pipelines take their
steps in the order of a schedule, which names them by their places in the list of libraries.
-/

namespace BindingCoverage.Verification

/-- The result of a pipeline for whoever waits for it. One that has broken off counts as a failure
of the system. -/
def joined {α : Type} : Answer Error α → Except Error α
  | .given a => .ok a
  | .failed e => .error e
  | .brokenOff => .error (.system ⟨.other "verification thread panicked", none⟩)

variable {σ : Type} (services : Services σ) (settings : Settings)

/-- Registers several libraries at once. The results are in the order of the libraries. -/
def registerAll (schedule : List Nat) (libraries : List Library) :
    StateM (World σ) (List (Library × Except Error Unit)) := fun w =>
  let (answers, w) :=
    Activity.interleave schedule (libraries.map (register services settings)) w
  (libraries.zipWith (fun l answer => (l, joined answer)) answers, w)

end BindingCoverage.Verification
