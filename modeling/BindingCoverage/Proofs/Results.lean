import Mathlib

/-!
# Results that may be errors

`Brings x P a` says everything about a computation `x` that has one possible result: it brings `a`
if `P` holds, and an error if not. Computations put together bring results under all the
conditions together (`Brings.bind`).

`failure?` is the error of a computation. Of computations put together, the first one that fails
counts (`failure?_bind`).

When every error is replaced by another one, it does not matter whether this is done at the end or
at every step (`mapError_bind`, `mapM_mapError`, `foldlM_mapError`).
-/

namespace BindingCoverage

variable {ε ε' ε'' α β : Type}

theorem exists_of_bind_eq_ok {x : Except ε α} {f : α → Except ε β} {b : β}
    (h : x >>= f = .ok b) : ∃ a, x = .ok a ∧ f a = .ok b := by
  cases x with
  | error e => cases h
  | ok a => exact ⟨a, rfl, h⟩

theorem exists_error_of_map_iff {x : Except ε α} (g : α → β) :
    (∃ e, (x >>= fun a => pure (g a)) = .error e) ↔ ∃ e, x = .error e := by
  cases x with
  | error e => exact ⟨fun _ => ⟨e, rfl⟩, fun _ => ⟨e, rfl⟩⟩
  | ok a => exact ⟨nofun, nofun⟩

/-! ## Other errors -/

theorem mapError_mapError (x : Except ε α) (g : ε → ε') (g' : ε' → ε'') :
    (x.mapError g).mapError g' = x.mapError fun e => g' (g e) := by
  cases x with
  | error e => rfl
  | ok a => rfl

theorem mapError_bind (x : Except ε α) (f : α → Except ε β) (g : ε → ε') :
    (x >>= f).mapError g = x.mapError g >>= fun a => (f a).mapError g := by
  cases x with
  | error e => rfl
  | ok a => rfl

theorem mapError_eq_ok_iff {x : Except ε α} {g : ε → ε'} {a : α} :
    x.mapError g = .ok a ↔ x = .ok a := by
  cases x with
  | error e => simp [Except.mapError]
  | ok a' => simp [Except.mapError]

theorem mapM_mapError (f : α → Except ε β) (g : ε → ε') (xs : List α) :
    xs.mapM (fun a => (f a).mapError g) = (xs.mapM f).mapError g := by
  induction xs with
  | nil => rfl
  | cons a rest ih =>
    simp only [List.mapM_cons, ih, mapError_bind]
    rfl

theorem foldlM_mapError (f : β → α → Except ε β) (g : ε → ε') (xs : List α) :
    ∀ b, xs.foldlM (fun b a => (f b a).mapError g) b = (xs.foldlM f b).mapError g := by
  induction xs with
  | nil => intro b; rfl
  | cons a rest ih =>
    intro b
    simp only [List.foldlM_cons, ih, mapError_bind]

/-! ## One possible result -/

/-- The computation brings `a` if `P` holds, and an error if not. -/
def Brings (x : Except ε α) (P : Prop) (a : α) : Prop := ∀ b, x = .ok b ↔ P ∧ b = a

namespace Brings

theorem ok {P : Prop} (hP : P) (a : α) : Brings (.ok a : Except ε α) P a := by
  intro b
  simp [hP, eq_comm]

theorem of_eq {x : Except ε α} {a : α} (h : x = .ok a) : Brings x True a := h ▸ ok trivial a

theorem error {P : Prop} (hP : ¬ P) (e : ε) (a : α) : Brings (.error e) P a := by
  intro b
  simp [hP]

theorem bind {x : Except ε α} {f : α → Except ε β} {P Q : Prop} {a : α} {b : β}
    (hx : Brings x P a) (hf : P → Brings (f a) Q b) : Brings (x >>= f) (P ∧ Q) b := by
  intro b'
  constructor
  · intro h
    cases hxa : x with
    | error e => rw [hxa] at h; cases h
    | ok a' =>
      obtain ⟨hP, rfl⟩ := (hx a').mp hxa
      rw [hxa] at h
      obtain ⟨hQ, hb⟩ := (hf hP b').mp h
      exact ⟨⟨hP, hQ⟩, hb⟩
  · rintro ⟨⟨hP, hQ⟩, hb⟩
    rw [(hx a).mpr ⟨hP, rfl⟩]
    exact (hf hP b').mpr ⟨hQ, hb⟩

theorem andThen {x : Except ε α} {f : α → Except ε β} {P : Prop} {a : α} {b : β}
    (hx : Brings x P a) (hf : P → f a = .ok b) : Brings (x >>= f) P b := by
  intro b'
  rw [hx.bind (fun hP => hf hP ▸ ok trivial b) b', and_true]

theorem map {x : Except ε α} {P : Prop} {a : α} (hx : Brings x P a) (g : α → β) :
    Brings (x >>= fun a => pure (g a)) P (g a) :=
  hx.andThen fun _ => rfl

theorem mapError {x : Except ε α} {P : Prop} {a : α} (hx : Brings x P a) (f : ε → ε') :
    Brings (x.mapError f) P a := by
  intro b
  rw [← hx b, mapError_eq_ok_iff]

theorem congr {x : Except ε α} {P Q : Prop} {a b : α} (hx : Brings x P a) (hPQ : P ↔ Q)
    (hab : P → a = b) : Brings x Q b := by
  intro b'
  rw [hx b', ← hPQ]
  exact and_congr_right fun hP => by rw [hab hP]

theorem eq_ok {x : Except ε α} {P : Prop} {a : α} (hx : Brings x P a) (hP : P) : x = .ok a :=
  (hx a).mpr ⟨hP, rfl⟩

end Brings

/-! ## The error -/

def failure? : Except ε α → Option ε
  | .error e => some e
  | .ok _ => none

@[simp] theorem failure?_ok (a : α) : failure? (.ok a : Except ε α) = none := rfl

@[simp] theorem failure?_error (e : ε) : failure? (.error e : Except ε α) = some e := rfl

theorem failure?_eq_some_iff {x : Except ε α} {e : ε} : failure? x = some e ↔ x = .error e := by
  cases x with
  | error e' => simp
  | ok a => simp

theorem failure?_eq_none_iff {x : Except ε α} : failure? x = none ↔ ∃ a, x = .ok a := by
  cases x with
  | error e => simp
  | ok a => simp

theorem failure?_bind {x : Except ε α} {f : α → Except ε β} {d d' : Option ε}
    (hx : failure? x = d) (hf : ∀ a, x = .ok a → failure? (f a) = d') :
    failure? (x >>= f) = d.or d' := by
  subst hx
  cases x with
  | error e => rfl
  | ok a => exact hf a rfl

theorem failure?_map (x : Except ε α) (g : α → β) :
    failure? (x >>= fun a => pure (g a)) = failure? x := by
  cases x with
  | error e => rfl
  | ok a => rfl

/-- Computations one after the other fail with the first one that does. -/
theorem failure?_mapM (f : α → Except ε β) (xs : List α) :
    failure? (xs.mapM f) = xs.findSome? fun a => failure? (f a) := by
  induction xs with
  | nil => rfl
  | cons a rest ih =>
    rw [List.mapM_cons, List.findSome?_cons]
    cases f a with
    | error e => rfl
    | ok b => exact (failure?_map (rest.mapM f) (b :: ·)).trans ih

theorem failure?_mapError (x : Except ε α) (g : ε → ε') :
    failure? (x.mapError g) = (failure? x).map g := by
  cases x with
  | error e => rfl
  | ok a => rfl

end BindingCoverage
