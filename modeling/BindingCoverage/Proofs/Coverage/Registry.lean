import Mathlib
import BindingCoverage.Coverage.Registry
import BindingCoverage.Library

/-!
# Entries of the registry

* `Text.Sorted.get?_put_self`, `Text.Sorted.get?_put_of_ne`: what is found after a value was put.
* `Text.Sorted.put_comm`: values of different keys can be put in any order.
* `Text.Sorted.keys_put`: a key is put among the other keys like a text into a sorted list.
* `Registry.register_library`: a set for a library is always taken, under the library's own prefix.
-/

namespace BindingCoverage

namespace Text.Sorted

variable {α : Type}

theorem get?_cons_self (key : String) (value : α) (rest : List (String × α)) :
    get? key ((key, value) :: rest) = some value := by
  simp [get?]

theorem get?_cons_of_ne {key other : String} (hNe : key ≠ other) (value : α)
    (rest : List (String × α)) : get? key ((other, value) :: rest) = get? key rest := by
  simp [get?, hNe.symm]

theorem get?_put_self (key : String) (value : α) (entries : List (String × α)) :
    get? key (put key value entries) = some value := by
  induction entries with
  | nil => exact get?_cons_self key value []
  | cons e rest ih =>
    obtain ⟨k, v⟩ := e
    unfold put
    split_ifs with hLt hEq
    · exact get?_cons_self key value _
    · exact get?_cons_self key value _
    · rw [get?_cons_of_ne hEq, ih]

theorem get?_put_of_ne {key other : String} (hNe : key ≠ other) (value : α)
    (entries : List (String × α)) : get? key (put other value entries) = get? key entries := by
  induction entries with
  | nil => exact get?_cons_of_ne hNe value []
  | cons e rest ih =>
    obtain ⟨k, v⟩ := e
    unfold put
    split_ifs with hLt hEq
    · exact get?_cons_of_ne hNe value _
    · subst hEq
      rw [get?_cons_of_ne hNe, get?_cons_of_ne hNe]
    · by_cases hKey : key = k
      · subst hKey
        rw [get?_cons_self, get?_cons_self]
      · rw [get?_cons_of_ne hKey, get?_cons_of_ne hKey, ih]

theorem put_cons_of_lt {key k : String} (h : key < k) (value v : α) (rest : List (String × α)) :
    put key value ((k, v) :: rest) = (key, value) :: (k, v) :: rest := by
  rw [put, if_pos h]

theorem put_cons_self (key : String) (value v : α) (rest : List (String × α)) :
    put key value ((key, v) :: rest) = (key, value) :: rest := by
  rw [put, if_neg (lt_irrefl key), if_pos rfl]

theorem put_cons_of_gt {key k : String} (h : k < key) (value v : α) (rest : List (String × α)) :
    put key value ((k, v) :: rest) = (k, v) :: put key value rest := by
  rw [put, if_neg h.not_gt, if_neg h.ne']

theorem put_comm_of_lt {key other : String} (hLt : key < other) (value value' : α)
    (entries : List (String × α)) :
    put key value (put other value' entries) = put other value' (put key value entries) := by
  induction entries with
  | nil =>
    exact (put_cons_of_lt hLt value value' []).trans (put_cons_of_gt hLt value' value []).symm
  | cons e rest ih =>
    obtain ⟨k, v⟩ := e
    rcases lt_trichotomy key k with hKey | rfl | hKey
    · -- the entry of the lesser key comes before all
      rw [put_cons_of_lt hKey, put_cons_of_gt hLt]
      rcases lt_trichotomy other k with hOther | rfl | hOther
      · rw [put_cons_of_lt hOther, put_cons_of_lt hLt]
      · rw [put_cons_self, put_cons_of_lt hLt]
      · rw [put_cons_of_gt hOther, put_cons_of_lt hKey]
    · rw [put_cons_of_gt hLt, put_cons_self, put_cons_self, put_cons_of_gt hLt]
    · rw [put_cons_of_gt (hKey.trans hLt), put_cons_of_gt hKey, put_cons_of_gt hKey,
        put_cons_of_gt (hKey.trans hLt), ih]

/-- The entries need not be sorted for this. -/
theorem put_comm {key other : String} (hNe : key ≠ other) (value value' : α)
    (entries : List (String × α)) :
    put key value (put other value' entries) = put other value' (put key value entries) := by
  rcases lt_or_gt_of_ne hNe with hLt | hLt
  · exact put_comm_of_lt hLt value value' entries
  · exact (put_comm_of_lt hLt value' value entries).symm

theorem keys_put (key : String) (value : α) (entries : List (String × α)) :
    (put key value entries).map (·.1) = insert key (entries.map (·.1)) := by
  induction entries with
  | nil => rfl
  | cons e rest ih =>
    obtain ⟨k, v⟩ := e
    rw [List.map_cons, insert]
    rcases lt_trichotomy key k with hLt | rfl | hGt
    · rw [put_cons_of_lt hLt, if_pos hLt]
      rfl
    · rw [put_cons_self, if_neg (lt_irrefl key), if_pos rfl]
      rfl
    · rw [put_cons_of_gt hGt, if_neg hGt.not_gt, if_neg hGt.ne', List.map_cons, ih]

theorem get?_isSome_iff {key : String} {entries : List (String × α)} :
    (get? key entries).isSome ↔ key ∈ entries.map (·.1) := by
  simp [get?, List.find?_isSome]

end Text.Sorted

theorem Library.symbolPrefix_inj {l l' : Library} (h : l.symbolPrefix = l'.symbolPrefix) :
    l = l' := by
  cases l <;> cases l' <;> first | rfl | exact absurd h (by decide)

namespace Registry

/-- The registry with the set of a library in place of an earlier one. -/
def put (r : Registry) (l : Library) (s : DeclarationSet) : Registry :=
  ⟨Text.Sorted.put l.symbolPrefix s r.entries⟩

theorem register_library (r : Registry) (l : Library) (s : DeclarationSet) :
    r.register l.symbolPrefix s = .ok (r.put l s) := by
  cases l <;> rfl

theorem expected?_put_self (r : Registry) (l : Library) (s : DeclarationSet) :
    (r.put l s).expected? l.symbolPrefix = some s :=
  Text.Sorted.get?_put_self _ _ _

theorem expected?_put_of_ne {text : String} {l : Library} (h : text ≠ l.symbolPrefix) (r : Registry)
    (s : DeclarationSet) : (r.put l s).expected? text = r.expected? text :=
  Text.Sorted.get?_put_of_ne h _ _

theorem put_comm {l l' : Library} (h : l ≠ l') (r : Registry) (s s' : DeclarationSet) :
    (r.put l s).put l' s' = (r.put l' s').put l s := by
  have hPrefix : l'.symbolPrefix ≠ l.symbolPrefix := fun hEq =>
    h (Library.symbolPrefix_inj hEq).symm
  exact congrArg Registry.mk (Text.Sorted.put_comm hPrefix s' s r.entries)

end Registry

end BindingCoverage
