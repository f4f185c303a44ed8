import BindingCoverage.Proofs.Dump.Forest
import BindingCoverage.Proofs.Xml.Nesting

/-!
# How far the collector has got

What the collector holds after the items before a place, read off those items: the open elements,
whether there was an element, how many elements are around the open function, and the names of the
functions so far.

* `entered_of_enter`, `leave_progress`: what a tag changes, and what the end of an element does.
* `take_follows`: so an item that is taken keeps the collector in step with the items.
* `foldlM_follows`: what was taken is all in the collector.
-/

namespace BindingCoverage.Dump

open Xml

/-! ## Functions among the items -/

/-- With these elements open, the tag is that of a function which is within no other one. -/
def OpensFunction (names : List (List UInt8)) (tag : Tag) : Prop :=
  tag.name = Utf8.encode "Function" ∧ Utf8.encode "Function" ∉ names

instance (names : List (List UInt8)) (tag : Tag) : Decidable (OpensFunction names tag) :=
  inferInstanceAs (Decidable (_ ∧ _))

/-- The innermost open element is a function that is within no other one. -/
def DirectlyInFunction (names : List (List UInt8)) : Prop :=
  names.head? = some (Utf8.encode "Function") ∧ Utf8.encode "Function" ∉ names.tail

instance (names : List (List UInt8)) : Decidable (DirectlyInFunction names) :=
  inferInstanceAs (Decidable (_ ∧ _))

/-- How many elements are open around the outermost open function. -/
def functionDepth : List (List UInt8) → Option Nat
  | [] => none
  | name :: outer =>
    (functionDepth outer).or (if name = Utf8.encode "Function" then some outer.length else none)

/-- The tag of an item, if it is that of a function which is within no other one. -/
def opened (names : List (List UInt8)) (item : Item) : List Tag :=
  match item.tag? with
  | some tag => if OpensFunction names tag then [tag] else []
  | none => []

/-- The tags of the functions that are within no other one, when `names` are open at first. -/
def functionTagsFrom (names : List (List UInt8)) : List Located → List Tag
  | [] => []
  | i :: rest => opened names i.item ++ functionTagsFrom (i.item.within names) rest

/-- The tags of the functions that are within no other one. -/
def functionTags (items : List Located) : List Tag := functionTagsFrom [] items

/-- The name in the tag of a function; no text if there is none. -/
def nameOf (tag : Tag) : String := (tag.text? "name").getD ""

theorem functionTagsFrom_append (xs ys : List Located) :
    ∀ names, functionTagsFrom names (xs ++ ys) =
      functionTagsFrom names xs ++
        functionTagsFrom (xs.foldl (fun names i => i.item.within names) names) ys := by
  induction xs with
  | nil => intro names; rfl
  | cons i rest ih =>
    intro names
    simp only [List.cons_append, functionTagsFrom, ih, List.append_assoc, List.foldl_cons]

@[simp] theorem functionTags_concat (items : List Located) (i : Located) :
    functionTags (items ++ [i]) = functionTags items ++ opened (openAfter items) i.item := by
  have hlast : functionTagsFrom (openAfter items) [i] = opened (openAfter items) i.item :=
    List.append_nil _
  rw [functionTags, functionTagsFrom_append, ← hlast]
  rfl

theorem functionDepth_lt {names : List (List UInt8)} {k : Nat} (h : functionDepth names = some k) :
    k < names.length := by
  induction names with
  | nil => cases h
  | cons name outer ih =>
    rw [functionDepth, Option.or_eq_some_iff] at h
    rw [List.length_cons]
    rcases h with h | ⟨-, h⟩
    · exact Nat.lt_succ_of_lt (ih h)
    · split_ifs at h
      cases h
      exact Nat.lt_succ_self _

theorem functionDepth_eq_none_iff {names : List (List UInt8)} :
    functionDepth names = none ↔ Utf8.encode "Function" ∉ names := by
  induction names with
  | nil => simp [functionDepth]
  | cons name outer ih =>
    rw [functionDepth, Option.or_eq_none_iff, ih, List.mem_cons, not_or]
    by_cases h : name = Utf8.encode "Function"
    · simp [h]
    · simp [h, Ne.symm h]

theorem functionDepth_cons (names : List (List UInt8)) (tag : Tag) :
    functionDepth (tag.name :: names) =
      if OpensFunction names tag then some names.length else functionDepth names := by
  cases hdepth : functionDepth names with
  | none =>
    have hnone := functionDepth_eq_none_iff.mp hdepth
    by_cases hname : tag.name = Utf8.encode "Function"
    · simp [functionDepth, hdepth, hname, OpensFunction, hnone]
    · simp [functionDepth, hdepth, hname, OpensFunction]
  | some k =>
    have hopens : ¬ OpensFunction names tag := by
      intro hopens
      rw [functionDepth_eq_none_iff.mpr hopens.2] at hdepth
      cases hdepth
    rw [functionDepth, hdepth, Option.some_or, if_neg hopens]

theorem functionDepth_of_not_opens {names : List (List UInt8)} {tag : Tag}
    (h : ¬ OpensFunction names tag) (isEmpty : Bool) :
    functionDepth (if isEmpty then names else tag.name :: names) = functionDepth names := by
  cases isEmpty with
  | true => rfl
  | false => exact (functionDepth_cons names tag).trans (if_neg h)

theorem directlyInFunction_iff {names : List (List UInt8)} {k : Nat}
    (h : functionDepth names = some k) : DirectlyInFunction names ↔ k + 1 = names.length := by
  cases names with
  | nil => cases h
  | cons name outer =>
    rw [functionDepth, Option.or_eq_some_iff] at h
    unfold DirectlyInFunction
    rw [List.head?_cons, List.tail_cons, List.length_cons, ← functionDepth_eq_none_iff]
    rcases h with h | ⟨hnone, h⟩
    · have hlt := functionDepth_lt h
      rw [h]
      simp
      omega
    · split_ifs at h with hname
      cases h
      simp [hname, hnone]

/-! ## The collector beside the items -/

namespace Collector

/-- The functions so far, in document order, with the open one. -/
def found (c : Collector) : List Declaration :=
  c.complete.reverse ++ (c.current.map Prod.snd).toList

/-- The collector has the items `before`. -/
structure Follows (c : Collector) (before : List Located) : Prop where
  names : c.names = (openAfter before).map Utf8.lossy
  root : c.sawRoot = before.any (·.item.tag?.isSome)
  depth : c.current.map Prod.fst = functionDepth (openAfter before)
  functions : c.found.map Declaration.name = (functionTags before).map nameOf

theorem follows_nil : Follows {} [] := ⟨rfl, rfl, rfl, rfl⟩

/-- Where elements are open, there were some. -/
theorem any_tag_of_openAfter {items : List Located} (h : openAfter items ≠ []) :
    items.any (·.item.tag?.isSome) = true := by
  induction items using List.reverseRecOn with
  | nil => exact absurd rfl h
  | append_singleton items i ih =>
    rw [openAfter_concat] at h
    rw [List.any_append, Bool.or_eq_true]
    cases hi : i.item with
    | start tag => exact .inr (by simp [hi, Item.tag?])
    | empty tag => exact .inr (by simp [hi, Item.tag?])
    | aside => rw [hi] at h; exact .inl (ih h)
    | close name =>
      rw [hi] at h
      refine .inl (ih fun hnil => h ?_)
      rw [hnil]
      rfl

variable {c c' : Collector} {before : List Located} {position : Nat} {tag : Tag} {isEmpty : Bool}

theorem Follows.length (h : Follows c before) : c.names.length = (openAfter before).length := by
  rw [h.names, List.length_map]

theorem Follows.current_eq_none_iff (h : Follows c before) :
    c.current = none ↔ Utf8.encode "Function" ∉ openAfter before := by
  rw [← functionDepth_eq_none_iff, ← h.depth, Option.map_eq_none_iff]

theorem Follows.index (h : Follows c before) (hcurrent : c.current = none) :
    c.complete.length = (functionTags before).length := by
  have hlength := congrArg List.length h.functions
  simpa [found, hcurrent] using hlength

/-- What is there after a tag that is taken, before its element is opened. -/
structure Entered (c : Collector) (before : List Located) (tag : Tag) (isEmpty : Bool)
    (c' : Collector) : Prop where
  root : c'.sawRoot = true
  depth : c'.current.map Prod.fst =
    functionDepth (if isEmpty then openAfter before else tag.name :: openAfter before)
  functions : c'.found.map Declaration.name = c.found.map Declaration.name ++
    if OpensFunction (openAfter before) tag then [nameOf tag] else []

theorem entered_outside (h : Follows c before) (hcurrent : c.current = none)
    (henter : c.enter position tag isEmpty = .ok c') : Entered c before tag isEmpty c' := by
  have hnone := h.current_eq_none_iff.mp hcurrent
  have hdepth := functionDepth_eq_none_iff.mpr hnone
  have hopen : c.names = [] → c.sawRoot = false := by
    intro hnil
    unfold enter at henter
    rw [hnil] at henter
    split_ifs at henter with hroot
    simpa using hroot
  obtain ⟨-, rfl⟩ := (enter_outside position tag isEmpty hcurrent hopen c').mp henter
  by_cases hname : tag.name = Utf8.encode "Function"
  · have hopens : OpensFunction (openAfter before) tag := ⟨hname, hnone⟩
    have hcons := (functionDepth_cons (openAfter before) tag).trans (if_pos hopens)
    simp only [if_pos hname]
    cases isEmpty with
    | true =>
      refine ⟨rfl, ?_, ?_⟩
      · exact (congrArg (Option.map Prod.fst) hcurrent).trans hdepth.symm
      · simp [hopens, found, hcurrent, declared, nameOf]
    | false =>
      refine ⟨rfl, ?_, ?_⟩
      · exact (congrArg some h.length).trans hcons.symm
      · simp [hopens, found, hcurrent, declared, nameOf]
  · have hopens : ¬ OpensFunction (openAfter before) tag := fun hopens => hname hopens.1
    rw [if_neg hname]
    refine ⟨rfl, ?_, ?_⟩
    · rw [functionDepth_of_not_opens hopens, hdepth]
      simp [addFiles, hcurrent]
    · simp [hopens, addFiles, found]

theorem entered_within (h : Follows c before) {k : Nat} {f : Declaration}
    (hcurrent : c.current = some (k, f)) (henter : c.enter position tag isEmpty = .ok c') :
    Entered c before tag isEmpty c' := by
  have hdepth : functionDepth (openAfter before) = some k := by
    rw [← h.depth, hcurrent]
    rfl
  have hlt := functionDepth_lt hdepth
  have hopens : ¬ OpensFunction (openAfter before) tag := by
    intro hopens
    rw [functionDepth_eq_none_iff.mpr hopens.2] at hdepth
    cases hdepth
  have hroot : c.sawRoot = true := by
    rw [h.root]
    refine any_tag_of_openAfter fun hnil => ?_
    rw [hnil] at hlt
    cases hlt
  rw [← h.length] at hlt
  -- Deep in the function a tag adds to the files at most, and directly in it to its declaration.
  rcases Nat.lt_or_eq_of_le hlt with hdeep | hdirect
  · obtain ⟨-, rfl⟩ := (enter_deep position tag isEmpty hcurrent hdeep hroot c').mp henter
    refine ⟨hroot, ?_, ?_⟩
    · rw [functionDepth_of_not_opens hopens, hdepth]
      simp [addFiles, hcurrent]
    · simp [hopens, addFiles, found]
  · obtain ⟨-, rfl⟩ := (enter_direct position tag isEmpty hcurrent hdirect hroot c').mp henter
    rw [setCurrent_eq hcurrent]
    refine ⟨hroot, ?_, ?_⟩
    · rw [functionDepth_of_not_opens hopens, hdepth]
      rfl
    · simp [hopens, addFiles, found, hcurrent, withChild]

theorem entered_of_enter (h : Follows c before)
    (henter : c.enter position tag isEmpty = .ok c') : Entered c before tag isEmpty c' := by
  cases hcurrent : c.current with
  | none => exact entered_outside h hcurrent henter
  | some function => exact entered_within h hcurrent henter

theorem Entered.root_eq (hentered : Entered c before tag isEmpty c') {i : Located}
    (hi : i.item.tag? = some tag) :
    c'.sawRoot = (before ++ [i]).any (·.item.tag?.isSome) := by
  rw [hentered.root, List.any_append, List.any_cons, hi]
  simp

theorem Entered.functions_eq (hentered : Entered c before tag isEmpty c') (h : Follows c before)
    {i : Located} (hi : i.item.tag? = some tag) :
    c'.found.map Declaration.name = (functionTags (before ++ [i])).map nameOf := by
  rw [hentered.functions, functionTags_concat, List.map_append, h.functions, opened, hi]
  simp only [apply_ite (List.map nameOf), List.map_cons, List.map_nil]

/-- What the end of an element changes. -/
theorem leave_progress (h : Follows c before) (position : Nat) {name : List UInt8}
    {outer : List (List UInt8)} (hopen : openAfter before = name :: outer) :
    ∃ c', c.leave position name = .ok c' ∧ c'.names = outer.map Utf8.lossy ∧
      c'.sawRoot = c.sawRoot ∧ c'.current.map Prod.fst = functionDepth outer ∧
      c'.found = c.found := by
  have hnames : c.names = Utf8.lossy name :: outer.map Utf8.lossy := by
    rw [h.names, hopen, List.map_cons]
  have hdepth := h.depth
  rw [hopen, functionDepth] at hdepth
  cases houter : functionDepth outer with
  | some k =>
    have hlt := functionDepth_lt houter
    rw [houter, Option.some_or] at hdepth
    refine ⟨_, leave_element position hnames ?_, rfl, rfl, hdepth, rfl⟩
    intro k' f hcurrent
    rw [hcurrent] at hdepth
    cases hdepth
    rwa [List.length_map]
  | none =>
    rw [houter, Option.none_or] at hdepth
    by_cases hname : name = Utf8.encode "Function"
    · rw [if_pos hname] at hdepth
      obtain ⟨⟨k, f⟩, hcurrent, hk⟩ := Option.map_eq_some_iff.mp hdepth
      obtain rfl : k = outer.length := hk
      have hfunction : c.current = some ((outer.map Utf8.lossy).length, f) := by
        rw [hcurrent, List.length_map]
      refine ⟨_, leave_function position hnames hfunction, rfl, rfl, rfl, ?_⟩
      simp [found, hcurrent]
    · rw [if_neg hname] at hdepth
      refine ⟨_, leave_element position hnames ?_, rfl, rfl, hdepth, rfl⟩
      intro k f hcurrent
      rw [hcurrent] at hdepth
      cases hdepth

theorem take_follows {i : Located} (h : Follows c before) (hfits : Fits before i)
    (htake : c.take i = .ok c') : Follows c' (before ++ [i]) := by
  have hnames := take_names htake hfits h.names
  unfold take at htake
  cases hi : i.item with
  | start tag =>
    rw [hi] at htake
    obtain ⟨c₁, henter, hpush⟩ := exists_of_bind_eq_ok htake
    cases hpush
    have hentered := entered_of_enter h henter
    have htag : i.item.tag? = some tag := by rw [hi]; rfl
    refine ⟨hnames, hentered.root_eq htag, ?_, hentered.functions_eq h htag⟩
    rw [openAfter_concat, hi]
    exact hentered.depth
  | empty tag =>
    rw [hi] at htake
    have hentered := entered_of_enter h htake
    have htag : i.item.tag? = some tag := by rw [hi]; rfl
    refine ⟨hnames, hentered.root_eq htag, ?_, hentered.functions_eq h htag⟩
    rw [openAfter_concat, hi]
    exact hentered.depth
  | close name =>
    rw [hi] at htake
    obtain ⟨outer, hopen⟩ := exists_of_fits_close hfits hi
    obtain ⟨c₁, hleave, -, hroot, hcurrent, hfound⟩ := leave_progress h i.position hopen
    obtain rfl : c' = c₁ := Except.ok.inj (htake.symm.trans hleave)
    refine ⟨hnames, ?_, ?_, ?_⟩
    · simpa [hi, Item.tag?, hroot] using h.root
    · rw [openAfter_concat, hi, hopen]
      exact hcurrent
    · rw [functionTags_concat, hi, hfound]
      simpa [opened, Item.tag?] using h.functions
  | aside =>
    rw [hi] at htake
    cases htake
    refine ⟨hnames, ?_, ?_, ?_⟩
    · simpa [hi, Item.tag?] using h.root
    · rw [openAfter_concat, hi]
      exact h.depth
    · rw [functionTags_concat, hi]
      simpa [opened, Item.tag?] using h.functions

theorem foldlM_follows {items : List Located} (hfits : Along Fits items) {c : Collector}
    (h : items.foldlM take {} = .ok c) : Follows c items := by
  induction items using List.reverseRecOn generalizing c with
  | nil =>
    cases h
    exact follows_nil
  | append_singleton items i ih =>
    obtain ⟨hitems, hi⟩ := along_concat.mp hfits
    rw [foldlM_concat] at h
    obtain ⟨c', hc', htake⟩ := exists_of_bind_eq_ok h
    exact take_follows (ih hitems hc') hi htake

/-- Where no element is open, all functions are complete. -/
theorem Follows.complete_names (h : Follows c before) (hopen : openAfter before = []) :
    c.complete.reverse.map Declaration.name = (functionTags before).map nameOf := by
  have hcurrent : c.current = none := by
    rw [h.current_eq_none_iff, hopen]
    exact List.not_mem_nil
  rw [← h.functions, found, hcurrent, Option.map_none, Option.toList_none, List.append_nil]

end Collector

end BindingCoverage.Dump
