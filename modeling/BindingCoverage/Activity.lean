/-!
# Activities

An activity takes one step after another on a state that it may share with others, and ends with a
result. A step is done at once: nobody else acts in the middle of it.

* `run`: the activity takes all its steps while nobody else acts.
* `interleave`: several activities take their steps in the order of a schedule, which names them by
  their places. What a schedule leaves undone is done at the end, one activity after the other, so
  every list of numbers is a schedule, and every order of steps is that of a schedule.
-/

namespace BindingCoverage

/-- A part of a state: what changes it leaves the rest alone. -/
structure Part (σ α : Type) where
  get : σ → α
  set : α → σ → σ
  get_set : ∀ a s, get (set a s) = a := by intros; rfl
  set_get : ∀ s, set (get s) s = s := by intros; rfl
  set_set : ∀ a b s, set b (set a s) = set b s := by intros; rfl

namespace Part

/-- The whole state. -/
def whole {σ : Type} : Part σ σ where
  get s := s
  set a _ := a

/-- What is done to the part, done to the whole state. -/
def lift {σ α β : Type} (p : Part σ α) (f : StateM α β) : StateM σ β := fun s =>
  let (b, a) := f (p.get s)
  (b, p.set a s)

end Part

inductive Activity (σ α : Type) : Type 1 where
  | done (a : α)
  | step {β : Type} (act : StateM σ β) (next : β → Activity σ α)

namespace Activity

variable {σ τ α β : Type}

/-- A single step. -/
def atomic (act : StateM σ α) : Activity σ α := step act done

protected def bind (x : Activity σ α) (f : α → Activity σ β) : Activity σ β :=
  match x with
  | done a => f a
  | step act next => step act fun b => (next b).bind f

instance : Monad (Activity σ) where
  pure := done
  bind := Activity.bind

/-- An activity on a part of a state. -/
def on (p : Part τ σ) : Activity σ α → Activity τ α
  | done a => done a
  | step act next => step (p.lift act) fun b => (next b).on p

/-- The activity takes all its steps. -/
def run : Activity σ α → StateM σ α
  | done a => fun s => (a, s)
  | step act next => fun s =>
    let (b, s) := act s
    (next b).run s

/-- One activity after the other. -/
def runAll : List (Activity σ α) → StateM σ (List α)
  | [] => fun s => ([], s)
  | x :: rest => fun s =>
    let (a, s) := x.run s
    let (others, s) := runAll rest s
    (a :: others, s)

/-- Activity number `i` takes a step, if there is one that has not ended. -/
def advance (now : List (Activity σ α) × σ) (i : Nat) : List (Activity σ α) × σ :=
  match now.1[i]? with
  | some (step act next) =>
    let (b, s) := act now.2
    (now.1.set i (next b), s)
  | _ => now

/-- The activities take their steps in the order of a schedule. -/
def interleave (schedule : List Nat) (activities : List (Activity σ α)) : StateM σ (List α) :=
  fun s =>
    let (rest, s) := schedule.foldl advance (activities, s)
    runAll rest s

end Activity

end BindingCoverage
