import BindingCoverage.Proofs.Activity

/-!
# Activities that keep to a protocol

Of a state that activities share, each has something of its own: its holding. A protocol says in
which turns an activity may change the state, and how its holding changes with that. What holds of
all holdings together, and is kept by every turn, holds in every interleaving.

* `Obeys.bind`, `Obeys.on`: activities put together, and activities on a part of a state.
* `Obeys.foldl_advance`, `Obeys.interleave`: several activities, on their way and at their end.
-/

namespace BindingCoverage.Activity

variable {σ τ κ α β : Type}

/-- Every step of the activity is a change of this kind, whatever the others do. -/
def Always (change : σ → σ → Prop) : Activity σ α → Prop
  | done _ => True
  | step act next => ∀ s, change s (act s).2 ∧ Always change (next (act s).1)

/-- All steps of an activity with this holding are turns of the protocol, and when it ends its
result and its holding are as `post` says. -/
def Obeys (turn : κ → κ → σ → σ → Prop) (post : α → κ → Prop) : Activity σ α → κ → Prop
  | done a, k => post a k
  | step act next, k =>
    ∀ s, ∃ k', turn k k' s (act s).2 ∧ Obeys turn post (next (act s).1) k'

namespace Obeys

variable {turn : κ → κ → σ → σ → Prop} {post : α → κ → Prop} {k : κ}

theorem atomic {act : StateM σ α} (h : ∀ s, ∃ k', turn k k' s (act s).2 ∧ post (act s).1 k') :
    Obeys turn post (.atomic act) k := h

theorem bind {post' : β → κ → Prop} {x : Activity σ α} {f : α → Activity σ β}
    (hx : Obeys turn post x k) (hf : ∀ a k', post a k' → Obeys turn post' (f a) k') :
    Obeys turn post' (x >>= f) k := by
  induction x generalizing k with
  | done a => exact hf a k hx
  | step act next ih =>
    intro s
    obtain ⟨k', hTurn, hNext⟩ := hx s
    exact ⟨k', hTurn, ih (act s).1 hNext⟩

/-- What is a turn on a part has to be one on the whole. -/
theorem on {turn' : κ → κ → τ → τ → Prop} (p : Part τ σ)
    (hTurn : ∀ k k' s t, turn k k' (p.get t) s → turn' k k' t (p.set s t)) {x : Activity σ α}
    (hx : Obeys turn post x k) : Obeys turn' post (x.on p) k := by
  induction x generalizing k with
  | done a => exact hx
  | step act next ih =>
    intro t
    obtain ⟨k', hPart, hNext⟩ := hx (p.get t)
    exact ⟨k', hTurn k k' _ t hPart, ih _ hNext⟩

theorem of_always {change : σ → σ → Prop} (hTurn : ∀ s s', change s s' → turn k k s s')
    (hPost : ∀ a, post a k) {x : Activity σ α} (hx : Always change x) : Obeys turn post x k := by
  induction x with
  | done a => exact hPost a
  | step act next ih =>
    intro s
    exact ⟨k, hTurn s _ (hx s).1, ih _ (hx s).2⟩

section

variable (inv : (Nat → κ) → σ → Prop)
  (hInv : ∀ ks i k' s s', inv ks s → turn (ks i) k' s s' → inv (Function.update ks i k') s')

include hInv

theorem advance {xs : List (Activity σ α)} {s : σ} {ks : Nat → κ} (hStart : inv ks s)
    (hObeys : ∀ (i : Nat) (x : Activity σ α), xs[i]? = some x → Obeys turn post x (ks i))
    (i : Nat) :
    ∃ ks', inv ks' (Activity.advance (xs, s) i).2 ∧
      (∀ (j : Nat) (x : Activity σ α),
        (Activity.advance (xs, s) i).1[j]? = some x → Obeys turn post x (ks' j)) ∧
      ∀ j, xs.length ≤ j → ks' j = ks j := by
  obtain ⟨hSame, -⟩ | ⟨_, act, next, hStep, hNext, -⟩ := advance_cases (xs, s) i
  · rw [hSame]
    exact ⟨ks, hStart, hObeys, fun _ _ => rfl⟩
  obtain ⟨k', hTurn, hRest⟩ := hObeys i _ hStep s
  rw [hNext]
  refine ⟨Function.update ks i k', hInv ks i k' s _ hStart hTurn, ?_, ?_⟩
  · refine forall_of_set ?_ ?_
    · intro j x hSame hx
      rw [Function.update_of_ne hSame]
      exact hObeys j x hx
    · rw [Function.update_self]
      exact hRest
  · intro j hj
    have hInside : i < xs.length := (List.getElem?_eq_some_iff.mp hStep).1
    exact Function.update_of_ne (by omega) _ _

/-- What every turn keeps holds at every moment, whatever the order of the steps. -/
theorem foldl_advance (order : List Nat) {xs : List (Activity σ α)} {s : σ} (ks : Nat → κ)
    (hStart : inv ks s)
    (hObeys : ∀ (i : Nat) (x : Activity σ α), xs[i]? = some x → Obeys turn post x (ks i)) :
    ∃ ks', inv ks' (order.foldl Activity.advance (xs, s)).2 ∧
      (∀ (i : Nat) (x : Activity σ α),
        (order.foldl Activity.advance (xs, s)).1[i]? = some x → Obeys turn post x (ks' i)) ∧
      ∀ j, xs.length ≤ j → ks' j = ks j := by
  induction order generalizing xs s ks with
  | nil => exact ⟨ks, hStart, hObeys, fun _ _ => rfl⟩
  | cons i order ih =>
    obtain ⟨ks', hNext, hObeys', hSame⟩ := advance inv hInv hStart hObeys i
    obtain ⟨ks'', hEnd, hObeys'', hSame'⟩ := ih ks' hNext hObeys'
    refine ⟨ks'', hEnd, hObeys'', ?_⟩
    intro j hj
    rw [hSame' j (by rwa [length_advance]), hSame j hj]

/-- At the end every activity has what it is to have then. -/
theorem interleave (schedule : List Nat) {xs : List (Activity σ α)} {s : σ} (ks : Nat → κ)
    (hStart : inv ks s)
    (hObeys : ∀ (i : Nat) (x : Activity σ α), xs[i]? = some x → Obeys turn post x (ks i)) :
    ∃ ks', inv ks' (Activity.interleave schedule xs s).2 ∧
      (∀ (i : Nat) (a : α), (Activity.interleave schedule xs s).1[i]? = some a → post a (ks' i)) ∧
      ∀ j, xs.length ≤ j → ks' j = ks j := by
  obtain ⟨ks', hEnd, hObeys', hSame⟩ :=
    foldl_advance inv hInv (completion schedule xs s) ks hStart hObeys
  rw [interleave_eq] at hEnd hObeys'
  refine ⟨ks', hEnd, ?_, hSame⟩
  intro i a ha
  refine hObeys' i (.done a) ?_
  rw [List.getElem?_map, ha]
  rfl

end

end Obeys

end BindingCoverage.Activity
