import BindingCoverage.Proofs.Along
import BindingCoverage.Proofs.Declaration.Canonical

/-!
# What checking a list of declarations gives

`ensure` goes through a list with the names that it has seen. What it gives is said here by the
places of the declarations in the list.

* `firstOccurrences_eq_unrepeated`: what is kept are the declarations whose name does not occur
  earlier in the list.
* `ensure_eq_error_iff`: a list is refused for the first blank name in it.
* `Represents`, `ensure_exact`: what a set that is made of a list says about that list.
-/

namespace BindingCoverage

namespace Text

/-- The text is empty, or has nothing but blanks. -/
def Blank (s : String) : Prop := ∀ c ∈ s.toList, isBlank c = true

theorem isBlankText_iff {s : String} : isBlankText s = true ↔ Blank s := List.all_eq_true

theorem isBlankText_eq_false_iff {s : String} : isBlankText s = false ↔ ¬ Blank s := by
  rw [← isBlankText_iff, Bool.not_eq_true]

theorem startsWith_iff {whole start : String} :
    startsWith whole start = true ↔ ∃ rest, whole = start ++ rest := by
  unfold startsWith
  rw [List.isPrefixOf_iff_prefix]
  constructor
  · rintro ⟨rest, hrest⟩
    refine ⟨String.ofList rest, String.toList_inj.mp ?_⟩
    rw [String.toList_append, String.toList_ofList, hrest]
  · rintro ⟨rest, rfl⟩
    exact ⟨rest.toList, String.toList_append.symm⟩

end Text

namespace DeclarationSet

/-- The declarations whose name does not occur earlier. -/
def unrepeated (found : List Declaration) : List Declaration :=
  (found.zipIdx.filter fun p => p.1.name ∉ (found.take p.2).map (·.name)).map Prod.fst

/-- The declaration at this index is the first one whose name is blank. -/
def FirstBlank (found : List Declaration) (index : Nat) : Prop :=
  ∃ before d after, found = before ++ d :: after ∧ before.length = index ∧ Text.Blank d.name ∧
    ∀ e ∈ before, ¬ Text.Blank e.name

/-- The set has the first declaration of each name in the list, in order, and its look-ups answer as
if they went through the list. -/
structure Represents (s : DeclarationSet) (found : List Declaration) : Prop where
  declarations : s.declarations = unrepeated found
  order : s.declarations.Sublist found
  distinct : s.names.Nodup
  names : ∀ name, name ∈ s.names ↔ name ∈ found.map (·.name)
  get?_eq_some : ∀ name d, s.get? name = some d ↔
    ∃ before after, found = before ++ d :: after ∧ d.name = name ∧ ∀ e ∈ before, e.name ≠ name
  get?_eq_none : ∀ name, s.get? name = none ↔ ∀ d ∈ found, d.name ≠ name
  contains : ∀ name, s.contains name = true ↔ ∃ d, s.get? name = some d
  withPrefix_order : ∀ beginning, (s.withPrefix beginning).Sublist s.declarations
  mem_withPrefix : ∀ beginning d, d ∈ s.withPrefix beginning ↔
    d ∈ s.declarations ∧ ∃ rest, d.name = beginning ++ rest
  again : ensure s.declarations = .ok s

/-! ## First occurrences by their places -/

theorem firstOccurrences_concat (found : List Declaration) (d : Declaration) :
    ∀ seen, firstOccurrences seen (found ++ [d]) = firstOccurrences seen found ++
      if d.name ∈ seen ∨ d.name ∈ found.map (·.name) then [] else [d] := by
  induction found with
  | nil =>
    intro seen
    simp [firstOccurrences]
  | cons e rest ih =>
    intro seen
    rw [List.cons_append, firstOccurrences, firstOccurrences]
    by_cases hseen : e.name ∈ seen
    · -- the name of `e` is among those that were seen, so it makes no difference for `d`
      have hsame : d.name ∈ seen ∨ d.name ∈ (e :: rest).map (·.name) ↔
          d.name ∈ seen ∨ d.name ∈ rest.map (·.name) := by
        rw [List.map_cons, List.mem_cons, or_left_comm, or_iff_right_of_imp]
        rintro heq
        exact .inl (heq ▸ hseen)
      rw [if_pos hseen, if_pos hseen, ih, if_congr hsame rfl rfl]
    · have hsame : d.name ∈ seen ∨ d.name ∈ (e :: rest).map (·.name) ↔
          d.name ∈ e.name :: seen ∨ d.name ∈ rest.map (·.name) := by
        rw [List.map_cons, List.mem_cons, List.mem_cons, or_left_comm, or_assoc]
      rw [if_neg hseen, if_neg hseen, ih, if_congr hsame rfl rfl, List.cons_append]

theorem unrepeated_concat (found : List Declaration) (d : Declaration) :
    unrepeated (found ++ [d]) =
      unrepeated found ++ if d.name ∈ found.map (·.name) then [] else [d] := by
  have hbefore : found.zipIdx.filter
        (fun p => p.1.name ∉ ((found ++ [d]).take p.2).map (·.name)) =
      found.zipIdx.filter fun p => p.1.name ∉ (found.take p.2).map (·.name) := by
    refine List.filter_congr fun p hp => ?_
    have hle : p.2 ≤ found.length := (List.snd_lt_of_mem_zipIdx hp).le
    rw [List.take_append_of_le_length hle]
  unfold unrepeated
  rw [List.zipIdx_append, List.filter_append, List.map_append, hbefore, Nat.zero_add]
  congr 1
  by_cases hd : d.name ∈ found.map (·.name)
  · simp [hd]
  · simp [hd]

theorem firstOccurrences_eq_unrepeated (found : List Declaration) :
    firstOccurrences [] found = unrepeated found := by
  induction found using List.reverseRecOn with
  | nil => rfl
  | append_singleton found d ih =>
    rw [firstOccurrences_concat, unrepeated_concat, ih]
    simp

/-! ## Blank names -/

theorem ensure_eq_error_iff {found : List Declaration} {index : Nat} :
    ensure found = .error ⟨index⟩ ↔ FirstBlank found index := by
  have hfind : ensure found = .error ⟨index⟩ ↔
      found.findIdx? (Text.isBlankText ·.name) = some index := by
    unfold ensure
    cases found.findIdx? (Text.isBlankText ·.name) with
    | none => simp
    | some i => simp
  rw [hfind, findIdx?_eq_some_iff]
  simp only [FirstBlank, Text.isBlankText_iff, Text.isBlankText_eq_false_iff]

theorem ensure_eq_ok {found : List Declaration} (h : ∀ d ∈ found, ¬ Text.Blank d.name) :
    ensure found = .ok ⟨firstOccurrences [] found⟩ := by
  refine ensure_eq_ok_iff.mpr ⟨fun d hd hblank => h d hd ?_, rfl⟩
  exact Text.isBlankText_iff.mp (Text.trim_eq_empty.mp hblank)

/-! ## Look-ups -/

theorem get?_firstOccurrences (found : List Declaration) (name : String) :
    get? ⟨firstOccurrences [] found⟩ name = found.find? (·.name == name) :=
  find?_firstOccurrences found [] List.not_mem_nil

theorem mem_withPrefix {s : DeclarationSet} {beginning : String} {d : Declaration} :
    d ∈ s.withPrefix beginning ↔ d ∈ s.declarations ∧ ∃ rest, d.name = beginning ++ rest := by
  rw [withPrefix, List.mem_filter, Text.startsWith_iff]

theorem represents {found : List Declaration} (h : ∀ d ∈ found, ¬ Text.Blank d.name) :
    Represents ⟨firstOccurrences [] found⟩ found where
  declarations := firstOccurrences_eq_unrepeated found
  order := firstOccurrences_sublist [] found
  distinct := nodup_firstOccurrences [] found
  names := by
    intro name
    exact mem_names_firstOccurrences.trans (and_iff_left List.not_mem_nil)
  get?_eq_some := by
    intro name d
    rw [get?_firstOccurrences, List.find?_eq_some_iff_append]
    constructor
    · rintro ⟨hname, before, after, hfound, hbefore⟩
      exact ⟨before, after, hfound, by simpa using hname, by simpa using hbefore⟩
    · rintro ⟨before, after, hfound, hname, hbefore⟩
      exact ⟨by simpa using hname, before, after, hfound, by simpa using hbefore⟩
  get?_eq_none := by
    intro name
    rw [get?_firstOccurrences, List.find?_eq_none]
    simp
  contains := by
    intro name
    exact Option.isSome_iff_exists
  withPrefix_order := fun _ => List.filter_sublist
  mem_withPrefix := fun _ _ => mem_withPrefix
  again := canonical_iff.mp (ensure_canonical (ensure_eq_ok h))

/-- A list is refused exactly when a name in it is blank, for the first one that is. From every
other list a set is made, which has the first declaration of each name. -/
theorem ensure_exact (found : List Declaration) :
    ((∃ e, ensure found = .error e) ↔ ∃ d ∈ found, Text.Blank d.name) ∧
    (∀ index, ensure found = .error ⟨index⟩ ↔ FirstBlank found index) ∧
    ((∀ d ∈ found, ¬ Text.Blank d.name) → ∃ s, ensure found = .ok s ∧ s.Represents found) := by
  refine ⟨⟨?_, ?_⟩, fun index => ensure_eq_error_iff, fun h => ⟨_, ensure_eq_ok h, represents h⟩⟩
  · rintro ⟨⟨index⟩, herror⟩
    obtain ⟨before, d, after, rfl, -, hblank, -⟩ := ensure_eq_error_iff.mp herror
    exact ⟨d, by simp, hblank⟩
  · rintro ⟨d, hd, hblank⟩
    cases hensure : ensure found with
    | error e => exact ⟨e, rfl⟩
    | ok s =>
      have hnamed := (ensure_eq_ok_iff.mp hensure).1 d hd
      exact absurd (Text.trim_eq_empty.mpr (Text.isBlankText_iff.mpr hblank)) hnamed

/-- A list in which a name comes three times, and one with a name of blanks after an empty one. -/
theorem ensure_exact_repeated :
    ∃ found s, found = [.named "rbd_open", { name := "rbd_close", line := some 7 },
        { name := "rbd_open", line := some 99 }, .named "rados_open", .named "rbd_open"] ∧
      (∀ d ∈ found, ¬ Text.Blank d.name) ∧
      s = ⟨[.named "rbd_open", { name := "rbd_close", line := some 7 }, .named "rados_open"]⟩ ∧
      ensure found = .ok s ∧ s.Represents found ∧
      ensure (found ++ [.named "", .named "\u2003\n"]) = .error ⟨5⟩ := by
  have hnamed : ∀ d ∈ [Declaration.named "rbd_open", { name := "rbd_close", line := some 7 },
      { name := "rbd_open", line := some 99 }, .named "rados_open", .named "rbd_open"],
      ¬ Text.Blank d.name := by
    simp only [← Text.isBlankText_eq_false_iff]
    decide +kernel
  obtain ⟨s, hs, hrepresents⟩ := (ensure_exact _).2.2 hnamed
  refine ⟨_, s, rfl, hnamed, ?_, hs, hrepresents, by decide⟩
  exact Except.ok.inj (hs.symm.trans (by decide))

end DeclarationSet

end BindingCoverage
