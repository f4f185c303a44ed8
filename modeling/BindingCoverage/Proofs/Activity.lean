import Mathlib
import BindingCoverage.Activity

/-!
# Laws of activities

* `run_bind`, `run_on`: activities put together, and activities on a part of a state.
* `interleave_eq`: what a schedule does is what `advance` does along its `completion`, in which all
  activities end. A law of `advance` is so one of every order of steps.
* `endings`: which activity ended when, and with what.
* `MayEnd`: with what an activity may end, whatever others do between its steps.
-/

namespace BindingCoverage.Activity

variable {σ τ α β : Type}

/-! ## One activity -/

@[simp]
theorem run_pure (a : α) (s : σ) : (pure a : Activity σ α).run s = (a, s) := rfl

@[simp]
theorem run_atomic (act : StateM σ α) (s : σ) : (atomic act).run s = act s := rfl

@[simp]
theorem run_step (act : StateM σ β) (next : β → Activity σ α) (s : σ) :
    (step act next).run s = (next (act s).1).run (act s).2 := rfl

theorem run_bind (x : Activity σ α) (f : α → Activity σ β) (s : σ) :
    (x >>= f).run s = (f (x.run s).1).run (x.run s).2 := by
  induction x generalizing s with
  | done a => rfl
  | step act next ih => exact ih (act s).1 (act s).2

theorem run_map (f : α → β) (x : Activity σ α) (s : σ) :
    (f <$> x).run s = (f (x.run s).1, (x.run s).2) :=
  run_bind x (fun a => pure (f a)) s

theorem run_on (p : Part τ σ) (x : Activity σ α) (t : τ) :
    (x.on p).run t = ((x.run (p.get t)).1, p.set (x.run (p.get t)).2 t) := by
  induction x generalizing t with
  | done a => exact Prod.ext rfl (p.set_get t).symm
  | step act next ih =>
    have hNext := ih (act (p.get t)).1 (p.set (act (p.get t)).2 t)
    rw [p.get_set, p.set_set] at hNext
    exact hNext

/-! ## Several activities -/

theorem runAll_cons (x : Activity σ α) (rest : List (Activity σ α)) (s : σ) :
    runAll (x :: rest) s =
      ((x.run s).1 :: (runAll rest (x.run s).2).1, (runAll rest (x.run s).2).2) := rfl

/-- The steps that activity number `i` still takes when nobody else acts. -/
def stepsFrom (i : Nat) : Activity σ α → σ → List Nat
  | done _, _ => []
  | step act next, s => i :: (next (act s).1).stepsFrom i (act s).2

/-- The steps of one activity after the other, which are numbered from `i` on. -/
def stepsFromAll : Nat → List (Activity σ α) → σ → List Nat
  | _, [], _ => []
  | i, x :: rest, s => x.stepsFrom i s ++ stepsFromAll (i + 1) rest (x.run s).2

/-- All steps of an interleaving. -/
def completion (schedule : List Nat) (activities : List (Activity σ α)) (s : σ) : List Nat :=
  let (rest, s) := schedule.foldl advance (activities, s)
  schedule ++ stepsFromAll 0 rest s

theorem advance_step {xs : List (Activity σ α)} {i : Nat} {act : StateM σ β}
    {next : β → Activity σ α} (h : xs[i]? = some (step act next)) (s : σ) :
    advance (xs, s) i = (xs.set i (next (act s).1), (act s).2) := by
  simp only [advance, h]
  rfl

theorem foldl_stepsFrom (x : Activity σ α) (before after : List (Activity σ α)) (s : σ) :
    (x.stepsFrom before.length s).foldl advance (before ++ x :: after, s) =
      (before ++ done (x.run s).1 :: after, (x.run s).2) := by
  induction x generalizing s with
  | done a => rfl
  | step act next ih =>
    have hStep : (before ++ step act next :: after)[before.length]? = some (step act next) := by
      simp
    rw [stepsFrom, List.foldl_cons, advance_step hStep]
    simpa using ih (act s).1 (act s).2

theorem foldl_stepsFromAll (rest : List (Activity σ α)) (ended : List α) (s : σ) :
    (stepsFromAll ended.length rest s).foldl advance (ended.map done ++ rest, s) =
      ((ended ++ (runAll rest s).1).map done, (runAll rest s).2) := by
  induction rest generalizing ended s with
  | nil => simp [stepsFromAll, runAll]
  | cons x rest ih =>
    have hFirst := foldl_stepsFrom x (ended.map done) rest s
    have hRest := ih (ended ++ [(x.run s).1]) (x.run s).2
    rw [List.length_map] at hFirst
    rw [stepsFromAll, List.foldl_append, hFirst]
    simpa [runAll_cons] using hRest

/-- Along the completion of a schedule all activities end, with the results of the interleaving. -/
theorem interleave_eq (schedule : List Nat) (xs : List (Activity σ α)) (s : σ) :
    (completion schedule xs s).foldl advance (xs, s) =
      ((interleave schedule xs s).1.map done, (interleave schedule xs s).2) := by
  have hRest := foldl_stepsFromAll (schedule.foldl advance (xs, s)).1 []
    (schedule.foldl advance (xs, s)).2
  simp only [List.map_nil, List.nil_append, List.length_nil] at hRest
  rw [completion, List.foldl_append]
  exact hRest

theorem advance_map (f : α → β) (xs : List (Activity σ α)) (s : σ) (i : Nat) :
    advance (xs.map (f <$> ·), s) i =
      ((advance (xs, s) i).1.map (f <$> ·), (advance (xs, s) i).2) := by
  cases hx : xs[i]? with
  | none => simp [advance, hx]
  | some x =>
    cases x with
    | done a =>
      have hDone : (xs.map (f <$> ·))[i]? = some (done (f a)) := by
        rw [List.getElem?_map, hx]
        rfl
      simp only [advance, hx, hDone]
    | step act next =>
      have hStep : (xs.map (f <$> ·))[i]? = some (step act fun b => f <$> next b) := by
        rw [List.getElem?_map, hx]
        rfl
      rw [advance_step hx, advance_step hStep, List.map_set]

theorem interleave_map (f : α → β) (schedule : List Nat) (xs : List (Activity σ α)) (s : σ) :
    interleave schedule (xs.map (f <$> ·)) s =
      ((interleave schedule xs s).1.map f, (interleave schedule xs s).2) := by
  have hRunAll : ∀ (xs : List (Activity σ α)) (s : σ),
      runAll (xs.map (f <$> ·)) s = ((runAll xs s).1.map f, (runAll xs s).2) := by
    intro xs
    induction xs with
    | nil => intro s; rfl
    | cons x rest ih => intro s; simp only [List.map_cons, runAll_cons, run_map, ih]
  have hFoldl : ∀ (schedule : List Nat) (xs : List (Activity σ α)) (s : σ),
      schedule.foldl advance (xs.map (f <$> ·), s) =
        ((schedule.foldl advance (xs, s)).1.map (f <$> ·), (schedule.foldl advance (xs, s)).2) := by
    intro schedule
    induction schedule with
    | nil => intro xs s; rfl
    | cons i schedule ih => intro xs s; rw [List.foldl_cons, advance_map, ih, List.foldl_cons]
  simp only [interleave, hFoldl, hRunAll]

/-- What holds of the others, and of the new one in its place, holds of all. -/
theorem forall_of_set {γ : Type 1} {P : Nat → γ → Prop} {xs : List γ} {i : Nat} {y : γ}
    (hOthers : ∀ j x, j ≠ i → xs[j]? = some x → P j x) (hNew : P i y) :
    ∀ j x, (xs.set i y)[j]? = some x → P j x := by
  intro j x hx
  by_cases hSame : j = i
  · subst hSame
    have hInside : j < xs.length := by
      simpa using (List.getElem?_eq_some_iff.mp hx).1
    rw [List.getElem?_set_self hInside] at hx
    cases hx
    exact hNew
  · rw [List.getElem?_set_ne (Ne.symm hSame)] at hx
    exact hOthers j x hSame hx

/-! ## Who ends when -/

/-- The result of an activity that has ended. -/
def result? : Activity σ α → Option α
  | done a => some a
  | step _ _ => none

/-- The result of activity number `i`, with its number, if it ends with its next step. -/
def ending (now : List (Activity σ α) × σ) (i : Nat) : Option (Nat × α) :=
  match now.1[i]? with
  | some (step act next) => (next (act now.2).1).result?.map (i, ·)
  | _ => none

/-- The results of the activities that end in the course of these steps, in the order in which they
end, with their numbers. -/
def endings : List Nat → List (Activity σ α) × σ → List (Nat × α)
  | [], _ => []
  | i :: order, now => (ending now i).toList ++ endings order (advance now i)

/-- The activities of an interleaving in the order in which they end. -/
def conclusions (schedule : List Nat) (xs : List (Activity σ α)) (s : σ) : List (Nat × α) :=
  endings (completion schedule xs s) (xs, s)

/-- Everything that a step can be. -/
theorem advance_cases (now : List (Activity σ α) × σ) (i : Nat) :
    (advance now i = now ∧ ending now i = none) ∨
      ∃ (β : Type) (act : StateM σ β) (next : β → Activity σ α),
        now.1[i]? = some (step act next) ∧
          advance now i = (now.1.set i (next (act now.2).1), (act now.2).2) ∧
          ending now i = (next (act now.2).1).result?.map (i, ·) := by
  cases hx : now.1[i]? with
  | none => exact .inl ⟨by simp [advance, hx], by simp [ending, hx]⟩
  | some x =>
    cases x with
    | done a => exact .inl ⟨by simp [advance, hx], by simp [ending, hx]⟩
    | step act next => exact .inr ⟨_, act, next, rfl, advance_step hx now.2, by simp [ending, hx]⟩

theorem result?_eq_some {x : Activity σ α} {a : α} : x.result? = some a ↔ x = done a := by
  cases x with
  | done b => simp [result?]
  | step act next => simp [result?]

/-- What has ended stays so. -/
theorem advance_ended {now : List (Activity σ α) × σ} {j : Nat} {a : α}
    (h : now.1[j]? = some (done a)) (i : Nat) : (advance now i).1[j]? = some (done a) := by
  obtain ⟨hSame, -⟩ | ⟨_, act, next, hStep, hNext, -⟩ := advance_cases now i
  · rw [hSame, h]
  · have hNe : i ≠ j := by
      rintro rfl
      rw [hStep] at h
      cases h
    rw [hNext, List.getElem?_set_ne hNe, h]

theorem foldl_advance_ended {j : Nat} {a : α} (order : List Nat) {now : List (Activity σ α) × σ}
    (h : now.1[j]? = some (done a)) : (order.foldl advance now).1[j]? = some (done a) := by
  induction order generalizing now with
  | nil => exact h
  | cons i order ih => exact ih (advance_ended h i)

theorem ending_eq_some {now : List (Activity σ α) × σ} {i : Nat} {e : Nat × α}
    (h : ending now i = some e) :
    (∀ b, now.1[e.1]? ≠ some (done b)) ∧ (advance now i).1[e.1]? = some (done e.2) := by
  obtain ⟨-, hNone⟩ | ⟨_, act, next, hStep, hNext, hEnding⟩ := advance_cases now i
  · rw [hNone] at h
    cases h
  · rw [hEnding] at h
    obtain ⟨a, hResult, rfl⟩ := Option.map_eq_some_iff.mp h
    have hInside : i < now.1.length := (List.getElem?_eq_some_iff.mp hStep).1
    rw [result?_eq_some] at hResult
    refine ⟨?_, ?_⟩
    · intro b hDone
      rw [hStep] at hDone
      cases hDone
    · rw [hNext, List.getElem?_set_self hInside, hResult]

/-- What has ended after a step had done so before, or it ends with the step. -/
theorem ended_of_advance {now : List (Activity σ α) × σ} {i j : Nat} {a : α}
    (h : (advance now i).1[j]? = some (done a)) :
    now.1[j]? = some (done a) ∨ ending now i = some (j, a) := by
  obtain ⟨hSame, -⟩ | ⟨_, act, next, hStep, hNext, hEnding⟩ := advance_cases now i
  · exact .inl (hSame ▸ h)
  · have hInside : i < now.1.length := (List.getElem?_eq_some_iff.mp hStep).1
    rw [hNext] at h
    by_cases hEq : i = j
    · subst hEq
      rw [List.getElem?_set_self hInside] at h
      rw [hEnding, Option.some.inj h]
      exact .inr rfl
    · rw [List.getElem?_set_ne hEq] at h
      exact .inl h

theorem mem_endings {order : List Nat} {now : List (Activity σ α) × σ} {e : Nat × α}
    (h : e ∈ endings order now) :
    (∀ b, now.1[e.1]? ≠ some (done b)) ∧
      (order.foldl advance now).1[e.1]? = some (done e.2) := by
  induction order generalizing now with
  | nil => cases h
  | cons i order ih =>
    rcases List.mem_append.mp h with hHead | hRest
    · obtain ⟨hOpen, hEnded⟩ := ending_eq_some (Option.mem_toList.mp hHead)
      exact ⟨hOpen, foldl_advance_ended order hEnded⟩
    · obtain ⟨hOpen, hEnded⟩ := ih hRest
      exact ⟨fun b hDone => hOpen b (advance_ended hDone i), hEnded⟩

theorem mem_endings_of_ended {order : List Nat} {now : List (Activity σ α) × σ} {i : Nat} {a : α}
    (h : (order.foldl advance now).1[i]? = some (done a)) :
    now.1[i]? = some (done a) ∨ (i, a) ∈ endings order now := by
  induction order generalizing now with
  | nil => exact .inl h
  | cons j order ih =>
    rcases ih h with hNext | hLater
    · rcases ended_of_advance hNext with hBefore | hNow
      · exact .inl hBefore
      · exact .inr (List.mem_append_left _ (Option.mem_toList.mpr hNow))
    · exact .inr (List.mem_append_right _ hLater)

/-- Nothing ends twice. -/
theorem nodup_endings (order : List Nat) (now : List (Activity σ α) × σ) :
    ((endings order now).map (·.1)).Nodup := by
  induction order generalizing now with
  | nil => exact List.nodup_nil
  | cons i order ih =>
    unfold endings
    cases hNow : ending now i with
    | none => exact ih _
    | some e =>
      refine List.nodup_cons.mpr ⟨?_, ih _⟩
      intro hAgain
      obtain ⟨e', hMem, hSame⟩ := List.mem_map.mp hAgain
      exact (mem_endings hMem).1 e.2 (hSame ▸ (ending_eq_some hNow).2)

theorem length_advance (now : List (Activity σ α) × σ) (i : Nat) :
    (advance now i).1.length = now.1.length := by
  obtain ⟨hSame, -⟩ | ⟨_, act, next, -, hNext, -⟩ := advance_cases now i
  · rw [hSame]
  · rw [hNext, List.length_set]

theorem length_interleave (schedule : List Nat) (xs : List (Activity σ α)) (s : σ) :
    (interleave schedule xs s).1.length = xs.length := by
  have hLength : ∀ (order : List Nat) (now : List (Activity σ α) × σ),
      (order.foldl advance now).1.length = now.1.length := by
    intro order
    induction order with
    | nil => intro now; rfl
    | cons i order ih => intro now; rw [List.foldl_cons, ih, length_advance]
  have hEnd := hLength (completion schedule xs s) (xs, s)
  rwa [interleave_eq, List.length_map] at hEnd

theorem getElem?_interleave_of_mem {schedule : List Nat} {xs : List (Activity σ α)} {s : σ}
    {e : Nat × α} (h : e ∈ conclusions schedule xs s) :
    (interleave schedule xs s).1[e.1]? = some e.2 := by
  have hEnded := (mem_endings h).2
  rw [interleave_eq, List.getElem?_map] at hEnded
  obtain ⟨a, hResult, hDone⟩ := Option.map_eq_some_iff.mp hEnded
  rw [hResult, Activity.done.inj hDone]

/-- Every activity that has not ended from the start is among those that end. -/
theorem mem_conclusions {schedule : List Nat} {xs : List (Activity σ α)} {s : σ} {i : Nat} {a : α}
    (h : (interleave schedule xs s).1[i]? = some a) (hOpen : xs[i]? ≠ some (done a)) :
    (i, a) ∈ conclusions schedule xs s := by
  refine (mem_endings_of_ended ?_).resolve_left hOpen
  rw [interleave_eq, List.getElem?_map, h]
  rfl

/-! ## Whatever others do -/

/-- The activity may end so if others act between its steps. -/
inductive MayEnd : Activity σ α → α → Prop where
  | done (a : α) : MayEnd (done a) a
  | step {β : Type} {act : StateM σ β} {next : β → Activity σ α} {a : α} (s : σ)
      (rest : MayEnd (next (act s).1) a) : MayEnd (step act next) a

theorem mayEnd_pure {a b : α} : MayEnd (pure a : Activity σ α) b ↔ b = a := by
  constructor
  · intro h
    cases h
    rfl
  · rintro rfl
    exact .done _

theorem mayEnd_bind {x : Activity σ α} {f : α → Activity σ β} {b : β} :
    MayEnd (x >>= f) b ↔ ∃ a, MayEnd x a ∧ MayEnd (f a) b := by
  constructor
  · intro h
    induction x with
    | done a => exact ⟨a, .done a, h⟩
    | step act next ih =>
      cases h with
      | step s rest =>
        obtain ⟨a, hFirst, hThen⟩ := ih _ rest
        exact ⟨a, .step s hFirst, hThen⟩
  · rintro ⟨a, hFirst, hThen⟩
    induction hFirst with
    | done a => exact hThen
    | step s _ ih => exact .step s (ih hThen)

theorem mayEnd_on {p : Part τ σ} {x : Activity σ α} {a : α} (h : MayEnd (x.on p) a) :
    MayEnd x a := by
  induction x with
  | done b =>
    cases h with
    | done => exact .done a
  | step act next ih =>
    cases h with
    | step t rest => exact .step (p.get t) (ih _ rest)

/-- However activities are interleaved, each ends as it may. -/
theorem mayEnd_interleave {schedule : List Nat} {xs : List (Activity σ α)} {s : σ} {i : Nat}
    {a : α} (h : (interleave schedule xs s).1[i]? = some a) :
    ∃ x, xs[i]? = some x ∧ MayEnd x a := by
  -- what an activity that has taken some steps may end with, it could from the start
  have hFrom : ∀ (order : List Nat) (now : List (Activity σ α) × σ) (x : Activity σ α),
      (order.foldl advance now).1[i]? = some x →
      ∃ y, now.1[i]? = some y ∧ ∀ a, MayEnd x a → MayEnd y a := by
    intro order
    induction order with
    | nil => exact fun now x hx => ⟨x, hx, fun _ h => h⟩
    | cons j order ih =>
      intro now x hx
      obtain ⟨y, hNext, hEnds⟩ := ih (advance now j) x hx
      obtain ⟨hSame, -⟩ | ⟨_, act, next, hStep, hAdvance, -⟩ := advance_cases now j
      · exact ⟨y, hSame ▸ hNext, hEnds⟩
      rw [hAdvance] at hNext
      by_cases hEq : j = i
      · subst hEq
        rw [List.getElem?_set_self (List.getElem?_eq_some_iff.mp hStep).1] at hNext
        obtain rfl := Option.some.inj hNext
        exact ⟨_, hStep, fun a ha => .step now.2 (hEnds a ha)⟩
      · rw [List.getElem?_set_ne hEq] at hNext
        exact ⟨y, hNext, hEnds⟩
  have hDone : ((completion schedule xs s).foldl advance (xs, s)).1[i]? = some (done a) := by
    rw [interleave_eq, List.getElem?_map, h]
    rfl
  obtain ⟨x, hx, hEnds⟩ := hFrom _ _ _ hDone
  exact ⟨x, hx, hEnds a (.done a)⟩

end BindingCoverage.Activity
