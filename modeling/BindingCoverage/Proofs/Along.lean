import BindingCoverage.Proofs.Results

/-!
# Along a list

`Along P xs` says of every element of a list that it is as `P` says, given the elements before it.

* `along_concat`: one more element has to be as `P` says after all others.
* `exists_first`: otherwise there is a first element that is not.
* `foldlM_of_along`: a fold in which every such element can be taken gets to the end.
* `findIdx?_eq_some_iff`: the index of the first element with a property counts the elements before
  it.
-/

namespace BindingCoverage

variable {ε σ α : Type} {P Q : List α → α → Prop} {xs : List α}

def Along (P : List α → α → Prop) (xs : List α) : Prop :=
  ∀ before x after, xs = before ++ x :: after → P before x

theorem along_nil : Along P [] := by
  intro before x after h
  simp at h

theorem along_concat {x : α} : Along P (xs ++ [x]) ↔ Along P xs ∧ P xs x := by
  constructor
  · intro h
    refine ⟨?_, h xs x [] rfl⟩
    intro before y after hxs
    refine h before y (after ++ [x]) ?_
    rw [hxs, List.append_assoc, List.cons_append]
  · rintro ⟨hxs, hx⟩ before y after hall
    rcases List.eq_nil_or_concat after with rfl | ⟨middle, z, rfl⟩
    · obtain ⟨rfl, hlast⟩ := List.append_inj' hall rfl
      cases hlast
      exact hx
    · rw [List.concat_eq_append, ← List.cons_append, ← List.append_assoc] at hall
      exact hxs before y middle (List.append_inj' hall rfl).1

theorem Along.prefix {ys : List α} (h : Along P (xs ++ ys)) : Along P xs := by
  intro before x after hxs
  refine h before x (after ++ ys) ?_
  rw [hxs, List.append_assoc, List.cons_append]

/-- The first element that is not as `P` says. -/
theorem exists_first (h : ¬ Along P xs) :
    ∃ before x after, xs = before ++ x :: after ∧ Along P before ∧ ¬ P before x := by
  induction xs using List.reverseRecOn with
  | nil => exact absurd along_nil h
  | append_singleton xs x ih =>
    by_cases hxs : Along P xs
    · refine ⟨xs, x, [], rfl, hxs, fun hx => h ?_⟩
      exact along_concat.mpr ⟨hxs, hx⟩
    · obtain ⟨before, y, after, rfl, hbefore, hy⟩ := ih hxs
      exact ⟨before, y, after ++ [x], by simp, hbefore, hy⟩

theorem foldlM_concat (f : σ → α → Except ε σ) (s : σ) (xs : List α) (x : α) :
    (xs ++ [x]).foldlM f s = xs.foldlM f s >>= fun s' => f s' x := by
  rw [List.foldlM_append]
  simp only [List.foldlM_cons, List.foldlM_nil, bind_pure]

/-- `R` relates the elements that were taken to the state after them. -/
theorem foldlM_of_along {f : σ → α → Except ε σ} {s : σ} {R : List α → σ → Prop} (hstart : R [] s)
    (hstep : ∀ before x s', R before s' → P before x →
      ∃ s'', f s' x = .ok s'' ∧ R (before ++ [x]) s'') (h : Along P xs) :
    ∃ s', xs.foldlM f s = .ok s' ∧ R xs s' := by
  induction xs using List.reverseRecOn with
  | nil => exact ⟨s, rfl, hstart⟩
  | append_singleton xs x ih =>
    obtain ⟨hxs, hx⟩ := along_concat.mp h
    obtain ⟨s', htaken, hR⟩ := ih hxs
    obtain ⟨s'', hnext, hR'⟩ := hstep xs x s' hR hx
    refine ⟨s'', ?_, hR'⟩
    rw [foldlM_concat, htaken]
    exact hnext

theorem findIdx?_eq_some_iff {p : α → Bool} {index : Nat} :
    xs.findIdx? p = some index ↔ ∃ before x after, xs = before ++ x :: after ∧
      before.length = index ∧ p x = true ∧ ∀ y ∈ before, p y = false := by
  induction xs generalizing index with
  | nil => simp
  | cons x xs ih =>
    rw [List.findIdx?_cons]
    cases hx : p x with
    | true =>
      constructor
      · rintro ⟨⟩
        exact ⟨[], x, xs, rfl, rfl, hx, nofun⟩
      · rintro ⟨before, y, after, hxs, rfl, -, hbefore⟩
        cases before with
        | nil => rfl
        | cons z before =>
          obtain ⟨rfl, -⟩ := List.cons.inj hxs
          rw [hbefore x List.mem_cons_self] at hx
          cases hx
    | false =>
      rw [if_neg Bool.false_ne_true, Option.map_eq_some_iff]
      constructor
      · rintro ⟨index, hindex, rfl⟩
        obtain ⟨before, y, after, rfl, rfl, hy, hbefore⟩ := ih.mp hindex
        exact ⟨x :: before, y, after, rfl, rfl, hy, List.forall_mem_cons.mpr ⟨hx, hbefore⟩⟩
      · rintro ⟨before, y, after, hxs, rfl, hy, hbefore⟩
        cases before with
        | nil =>
          obtain ⟨rfl, -⟩ := List.cons.inj hxs
          rw [hy] at hx
          cases hx
        | cons z before =>
          obtain ⟨-, hrest⟩ := List.cons.inj hxs
          have htail := (List.forall_mem_cons.mp hbefore).2
          exact ⟨before.length, ih.mpr ⟨before, y, after, hrest, rfl, hy, htail⟩, rfl⟩

end BindingCoverage
