import BindingCoverage.Proofs.Declaration.Distinct

/-!
# Canonical sets of declarations

A set is canonical when no name is blank and no name comes twice.

* `Text.trim_eq_empty`: a name is blank when nothing is left of it after trimming.
* `ensure_canonical`: the sets that are made of checked lists are canonical.
* `canonical_iff`: the canonical sets are those that checking leaves as they are.
-/

namespace BindingCoverage

namespace Text

theorem trimChars_eq_nil {cs : List Char} : trimChars cs = [] ↔ ∀ c ∈ cs, isBlank c = true := by
  unfold trimChars
  rw [List.reverse_eq_nil_iff, List.dropWhile_eq_nil_iff]
  constructor
  · intro h
    -- what the first trimming leaves begins with a character that is no blank
    cases hleft : cs.dropWhile isBlank with
    | nil => exact List.dropWhile_eq_nil_iff.mp hleft
    | cons c rest =>
      have hhead := List.head?_dropWhile_not isBlank cs
      rw [hleft] at h hhead
      have hc := h c (by simp)
      simp [hc] at hhead
  · intro h c hc
    exact h c ((List.dropWhile_sublist _).subset (List.mem_reverse.mp hc))

theorem trim_eq_empty {s : String} : trim s = "" ↔ isBlankText s = true := by
  rw [trim, String.ofList_eq_empty_iff, trimChars_eq_nil, isBlankText, List.all_eq_true]

end Text

namespace DeclarationSet

/-- No name is blank, and no name comes twice. -/
structure Canonical (s : DeclarationSet) : Prop where
  named : ∀ d ∈ s.declarations, Text.trim d.name ≠ ""
  distinct : s.names.Nodup

/-! ## First occurrences -/

theorem firstOccurrences_sublist (seen : List String) (found : List Declaration) :
    (firstOccurrences seen found).Sublist found := by
  induction found generalizing seen with
  | nil => exact List.Sublist.refl _
  | cons d rest ih =>
    unfold firstOccurrences
    split
    · exact (ih seen).cons d
    · exact (ih (d.name :: seen)).cons_cons d

theorem not_mem_of_firstOccurrences {seen : List String} {found : List Declaration}
    {d : Declaration} (h : d ∈ firstOccurrences seen found) : d.name ∉ seen := by
  induction found generalizing seen with
  | nil => cases h
  | cons e rest ih =>
    unfold firstOccurrences at h
    split at h
    · exact ih h
    · next hnew =>
      rcases List.mem_cons.mp h with rfl | h
      · exact hnew
      · exact fun hseen => ih h (List.mem_cons_of_mem _ hseen)

theorem nodup_firstOccurrences (seen : List String) (found : List Declaration) :
    ((firstOccurrences seen found).map (·.name)).Nodup := by
  induction found generalizing seen with
  | nil => exact List.nodup_nil
  | cons d rest ih =>
    unfold firstOccurrences
    split
    · exact ih seen
    · rw [List.map_cons, List.nodup_cons]
      refine ⟨fun hmem => ?_, ih (d.name :: seen)⟩
      obtain ⟨e, he, hname⟩ := List.mem_map.mp hmem
      exact not_mem_of_firstOccurrences he (hname ▸ List.mem_cons_self)

/-- No name is lost but those that were seen before. -/
theorem mem_names_firstOccurrences {seen : List String} {found : List Declaration} {name : String} :
    name ∈ (firstOccurrences seen found).map (·.name) ↔
      name ∈ found.map (·.name) ∧ name ∉ seen := by
  induction found generalizing seen with
  | nil => simp [firstOccurrences]
  | cons d rest ih =>
    unfold firstOccurrences
    by_cases hSeen : d.name ∈ seen
    · rw [if_pos hSeen, ih, List.map_cons, List.mem_cons]
      refine and_congr_left fun hNew => ?_
      exact (or_iff_right fun hSame : name = d.name => hNew (hSame ▸ hSeen)).symm
    · rw [if_neg hSeen, List.map_cons, List.mem_cons, ih, List.map_cons, List.mem_cons,
        List.mem_cons, not_or]
      by_cases hSame : name = d.name
      · simp [hSame, hSeen]
      · simp [hSame]

theorem firstOccurrences_of_nodup {found : List Declaration} (h : (found.map (·.name)).Nodup) :
    ∀ {seen : List String}, (∀ d ∈ found, d.name ∉ seen) → firstOccurrences seen found = found := by
  induction found with
  | nil => intro seen _; rfl
  | cons d rest ih =>
    intro seen hunseen
    rw [List.map_cons, List.nodup_cons] at h
    rw [firstOccurrences, if_neg (hunseen d List.mem_cons_self), ih h.2]
    intro e he hmem
    rcases List.mem_cons.mp hmem with hname | hmem
    · exact h.1 (hname ▸ List.mem_map_of_mem he)
    · exact hunseen e (List.mem_cons_of_mem _ he) hmem

/-! ## Checked lists -/

theorem ensure_eq_ok_iff {found : List Declaration} {s : DeclarationSet} :
    ensure found = .ok s ↔
      (∀ d ∈ found, Text.trim d.name ≠ "") ∧ s = ⟨firstOccurrences [] found⟩ := by
  simp only [ensure_brings found s, firstOccurrences_nil, ne_eq, Text.trim_eq_empty,
    Bool.not_eq_true]

theorem ensure_canonical {found : List Declaration} {s : DeclarationSet}
    (h : ensure found = .ok s) : s.Canonical := by
  obtain ⟨hnamed, rfl⟩ := ensure_eq_ok_iff.mp h
  exact ⟨fun d hd => hnamed d ((firstOccurrences_sublist [] found).subset hd),
    nodup_firstOccurrences [] found⟩

theorem canonical_iff {s : DeclarationSet} : s.Canonical ↔ ensure s.declarations = .ok s := by
  constructor
  · intro h
    refine ensure_eq_ok_iff.mpr ⟨h.named, ?_⟩
    rw [firstOccurrences_of_nodup h.distinct (by simp)]
  · exact ensure_canonical

end DeclarationSet

end BindingCoverage
