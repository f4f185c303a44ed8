import BindingCoverage.Declaration.Set
import BindingCoverage.Proofs.Results

/-!
# Declarations with distinct names

* `firstOccurrences_eq`: of declarations with the same name, the first one is kept.
* `find?_distinct`: and it is the one that is found.
* `ensure_failure`: the first blank name is the one that is refused.
* `ensure_brings`: a set is made exactly when no name is blank.
-/

namespace BindingCoverage.DeclarationSet

/-- The declarations without the later repetitions of a name. -/
def distinct (found : List Declaration) : List Declaration :=
  found.eraseDupsBy fun a b => a.name == b.name

theorem firstOccurrences_eq (found : List Declaration) :
    ∀ seen : List String,
      firstOccurrences seen found = distinct (found.filter fun d => !seen.contains d.name) := by
  induction found with
  | nil => intro seen; rfl
  | cons d rest ih =>
    intro seen
    unfold firstOccurrences
    by_cases h : d.name ∈ seen
    · rw [if_pos h, ih, List.filter_cons_of_neg (by simpa using h)]
    · rw [if_neg h, ih, List.filter_cons_of_pos (by simpa using h), distinct, distinct,
        List.eraseDupsBy_cons, List.filter_filter]
      congr 2
      apply List.filter_congr
      intro e _
      simp

theorem firstOccurrences_nil (found : List Declaration) :
    firstOccurrences [] found = distinct found := by
  rw [firstOccurrences_eq]
  simp

theorem find?_firstOccurrences {name : String} (found : List Declaration) :
    ∀ seen : List String, name ∉ seen →
      (firstOccurrences seen found).find? (·.name == name) = found.find? (·.name == name) := by
  induction found with
  | nil => intro seen _; rfl
  | cons d rest ih =>
    intro seen hseen
    unfold firstOccurrences
    by_cases hd : d.name = name
    · rw [if_neg (by rw [hd]; exact hseen), List.find?_cons_of_pos (by simpa using hd),
        List.find?_cons_of_pos (by simpa using hd)]
    · rw [List.find?_cons_of_neg (by simpa using hd)]
      split
      · exact ih seen hseen
      · have hnext : name ∉ d.name :: seen := by
          simp [hseen, Ne.symm hd]
        rw [List.find?_cons_of_neg (by simpa using hd)]
        exact ih (d.name :: seen) hnext

/-- The declaration that is kept of a name is the first one with it. -/
theorem find?_distinct (found : List Declaration) (name : String) :
    (distinct found).find? (·.name == name) = found.find? (·.name == name) := by
  rw [← firstOccurrences_nil]
  exact find?_firstOccurrences found [] List.not_mem_nil

theorem ensure_failure (found : List Declaration) :
    failure? (ensure found) =
      ((found.map Declaration.name).findIdx? Text.isBlankText).map MissingName.mk := by
  have hnames : found.findIdx? (Text.isBlankText ·.name) =
      (found.map Declaration.name).findIdx? Text.isBlankText := by
    rw [List.findIdx?_map]
    rfl
  unfold ensure
  rw [hnames]
  cases (found.map Declaration.name).findIdx? Text.isBlankText with
  | none => rfl
  | some index => rfl

theorem ensure_brings (found : List Declaration) :
    Brings (ensure found) (∀ d ∈ found, Text.isBlankText d.name = false) ⟨distinct found⟩ := by
  unfold ensure
  cases h : found.findIdx? (Text.isBlankText ·.name) with
  | none =>
    rw [firstOccurrences_nil]
    exact Brings.ok (List.findIdx?_eq_none_iff.mp h) _
  | some index =>
    have hsome : found.findIdx? (Text.isBlankText ·.name) ≠ none := by rw [h]; simp
    rw [ne_eq, List.findIdx?_eq_none_iff] at hsome
    exact Brings.error hsome _ _

end BindingCoverage.DeclarationSet
