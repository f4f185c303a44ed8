import BindingCoverage.Proofs.Dump.Collector

/-!
# The collector on a forest

The collector goes through the items of a forest exactly when what it looks at in the forest can
be read. It then has all of the forest and nothing else.

* `foldlM_deep`, `foldlM_direct`, `foldlM_outside`: a forest deep within the open function, directly
  in it, and outside of any.
* `foldlM_root`: a document with at least one element.
-/

namespace BindingCoverage.Dump

open Xml

namespace Collector

/-- Opens an element. -/
def push (c : Collector) (tag : Tag) : Collector :=
  { c with names := Utf8.lossy tag.name :: c.names }

/-- The end of an element that is not the open function. -/
theorem leave_element {c : Collector} (position : Nat) {name : List UInt8} {outer : List String}
    (hnames : c.names = Utf8.lossy name :: outer)
    (hdepth : ∀ k f, c.current = some (k, f) → k < outer.length) :
    c.leave position name = .ok { c with names := outer } := by
  unfold leave
  simp only [hnames, if_true]
  cases hcurrent : c.current with
  | none => rfl
  | some function =>
    obtain ⟨k, f⟩ := function
    simp only [if_neg (Nat.ne_of_lt (hdepth k f hcurrent))]

/-- The end of the open function. -/
theorem leave_function {c : Collector} (position : Nat) {name : List UInt8} {outer : List String}
    {f : Declaration} (hnames : c.names = Utf8.lossy name :: outer)
    (hcurrent : c.current = some (outer.length, f)) :
    c.leave position name =
      .ok { c with names := outer, current := none, complete := f :: c.complete } := by
  unfold leave
  simp only [hnames, hcurrent, if_true]

/-- An element with its two tags, at `p` and `q`, and with the items between them. -/
def through (c : Collector) (p q : Nat) (tag : Tag) (items : List Located) :
    Except Error Collector :=
  c.enter p tag false >>= fun c =>
    items.foldlM take (c.push tag) >>= fun c => c.leave q tag.name

theorem foldlM_aside {i : Located} {rest : List Located} (c : Collector)
    (hi : i.item = .aside) : (i :: rest).foldlM take c = rest.foldlM take c := by
  rw [List.foldlM_cons, take, hi]
  rfl

theorem foldlM_empty {i : Located} {rest : List Located} {tag : Tag} (c : Collector)
    (hi : i.item = .empty tag) :
    (i :: rest).foldlM take c = c.enter i.position tag true >>= fun c => rest.foldlM take c := by
  rw [List.foldlM_cons, take, hi]

theorem foldlM_paired {i j : Located} {xs ys : List Located} {tag : Tag} (c : Collector)
    (hi : i.item = .start tag) (hj : j.item = .close tag.name) :
    (i :: xs ++ j :: ys).foldlM take c =
      c.through i.position j.position tag xs >>= fun c => ys.foldlM take c := by
  rw [List.cons_append, List.foldlM_cons, take, hi]
  simp only [through, bind_assoc, pure_bind, List.foldlM_append, List.foldlM_cons, take, hj]
  rfl

theorem foldlM_nothing {items : List Located} (h : Spells items .nothing) (c : Collector) :
    items.foldlM take c = .ok c := by
  generalize hd : Content.nothing = d at h
  induction h with
  | nothing => rfl
  | aside hi _ ih =>
    rw [foldlM_aside c hi]
    exact ih hd
  | empty => cases hd
  | paired => cases hd

/-! ## Within the open function -/

/-- A forest deep within the open function. -/
theorem foldlM_deep {items : List Located} {d : Content} (h : Spells items d) :
    ∀ {c : Collector} {k : Nat} {f : Declaration}, c.current = some (k, f) →
      k + 1 < c.names.length → c.sawRoot = true →
      Brings (items.foldlM take c) (∀ tag ∈ d.everywhere (Utf8.encode "File"), tag.Readable)
        (c.addFiles (filesIn d)) := by
  induction h with
  | nothing =>
    intro c k f _ _ _
    exact Brings.ok (by simp [Content.everywhere]) c
  | aside hi _ ih =>
    intro c k f hcurrent hdepth hroot
    rw [foldlM_aside c hi]
    exact ih hcurrent hdepth hroot
  | @empty i rest tag after hi _ ih =>
    intro c k f hcurrent hdepth hroot
    have hfirst := enter_deep i.position tag true hcurrent hdepth hroot
    have hrest := ih (c := c.addFiles (filesOf tag)) hcurrent hdepth hroot
    rw [foldlM_empty c hi]
    refine (hfirst.bind fun _ => hrest).congr ?_ fun _ => ?_
    · rw [Content.forall_mem_everywhere]
      simp [Content.everywhere]
    · simp [filesIn_element]
  | @paired i j xs ys tag inner after hi _ hj _ ihInner ihAfter =>
    intro c k f hcurrent hdepth hroot
    have hfirst := enter_deep i.position tag false hcurrent hdepth hroot
    have hinner := ihInner (c := (c.addFiles (filesOf tag)).push tag) hcurrent
      (Nat.lt_succ_of_lt hdepth) hroot
    have hleave := leave_element
      (c := ((c.addFiles (filesOf tag)).push tag).addFiles (filesIn inner))
      j.position rfl fun k' f' h' => by
        cases hcurrent.symm.trans h'
        exact Nat.lt_of_succ_lt hdepth
    have helement : Brings (c.through i.position j.position tag xs) _ _ :=
      hfirst.bind fun _ => hinner.bind fun _ => Brings.of_eq hleave
    have hafter := ihAfter (c := (c.addFiles (filesOf tag)).addFiles (filesIn inner)) hcurrent
      hdepth hroot
    rw [foldlM_paired c hi hj]
    refine (helement.bind fun _ => hafter).congr ?_ fun _ => ?_
    · rw [Content.forall_mem_everywhere]
      simp [and_assoc]
    · simp [filesIn_element]

/-- A forest directly in the open function. -/
theorem foldlM_direct {items : List Located} {d : Content} (h : Spells items d) :
    ∀ {c : Collector} {k : Nat} {f : Declaration}, c.current = some (k, f) →
      k + 1 = c.names.length → c.sawRoot = true →
      Brings (items.foldlM take c)
        ((∀ tag ∈ d.children (Utf8.encode "Argument"), tag.Readable) ∧
          ∀ tag ∈ d.everywhere (Utf8.encode "File"), tag.Readable)
        ((c.setCurrent (withContent f d)).addFiles (filesIn d)) := by
  induction h with
  | nothing =>
    intro c k f hcurrent _ _
    rw [withContent_nothing, filesIn_nothing, addFiles_nil, setCurrent_self hcurrent]
    exact Brings.ok (by simp [Content.children, Content.everywhere]) c
  | aside hi _ ih =>
    intro c k f hcurrent hdepth hroot
    rw [foldlM_aside c hi]
    exact ih hcurrent hdepth hroot
  | @empty i rest tag after hi _ ih =>
    intro c k f hcurrent hdepth hroot
    have hfirst := enter_direct i.position tag true hcurrent hdepth hroot
    have hrest := ih (c := (c.setCurrent (withChild f tag)).addFiles (filesOf tag))
      (setCurrent_current hcurrent _) hdepth hroot
    rw [foldlM_empty c hi]
    refine (hfirst.bind fun _ => hrest).congr ?_ fun _ => ?_
    · rw [Content.forall_mem_everywhere, Content.forall_mem_children]
      simp only [Content.everywhere, List.not_mem_nil, false_implies, implies_true, true_and]
      tauto
    · simp [filesIn_element, withContent_element]
  | @paired i j xs ys tag inner after hi hInner hj _ _ ihAfter =>
    intro c k f hcurrent hdepth hroot
    have hopened := setCurrent_current hcurrent (withChild f tag)
    have hfirst := enter_direct i.position tag false hcurrent hdepth hroot
    have hinner := foldlM_deep hInner
      (c := ((c.setCurrent (withChild f tag)).addFiles (filesOf tag)).push tag) hopened
      (Nat.lt_succ_of_le (Nat.le_of_eq hdepth)) hroot
    have hleave := leave_element
      (c := (((c.setCurrent (withChild f tag)).addFiles (filesOf tag)).push tag).addFiles
        (filesIn inner))
      j.position rfl fun k' f' h' => by
        cases hopened.symm.trans h'
        exact Nat.lt_of_succ_le (Nat.le_of_eq hdepth)
    have helement : Brings (c.through i.position j.position tag xs) _ _ :=
      hfirst.bind fun _ => hinner.bind fun _ => Brings.of_eq hleave
    have hafter := ihAfter
      (c := ((c.setCurrent (withChild f tag)).addFiles (filesOf tag)).addFiles (filesIn inner))
      hopened hdepth hroot
    rw [foldlM_paired c hi hj]
    refine (helement.bind fun _ => hafter).congr ?_ fun _ => ?_
    · rw [Content.forall_mem_everywhere, Content.forall_mem_children]
      tauto
    · simp [filesIn_element, withContent_element]

/-! ## Outside of any function -/

/-- The collector with what a forest outside of any function declares. -/
def withForest (c : Collector) (d : Content) : Collector :=
  { c.addFiles (filesIn d) with complete := (functionsIn d).reverse ++ c.complete }

theorem withRoot_eq {c : Collector} (h : c.sawRoot = true) : { c with sawRoot := true } = c := by
  cases c
  cases h
  rfl

theorem withForest_append (c : Collector) (d e : Content) :
    (c.withForest d).withForest e = c.withForest (d ++ e) := by
  simp [withForest, addFiles, functionsIn_append, filesIn_append]

theorem withForest_element (c : Collector) {tag : Tag} (inner : Content)
    (h : tag.name ≠ Utf8.encode "Function") :
    (c.addFiles (filesOf tag)).withForest inner = c.withForest (.element tag inner .nothing) := by
  simp [withForest, addFiles, functionsIn_element, filesIn_element, h]

theorem withForest_function (c : Collector) {tag : Tag} (inner : Content)
    (h : tag.name = Utf8.encode "Function") :
    c.withForest (.element tag inner .nothing) =
      { c.addFiles (filesIn inner) with complete := declared tag inner :: c.complete } := by
  have hFile : tag.name ≠ Utf8.encode "File" := by rw [h]; decide
  simp [withForest, functionsIn_element, filesIn_element, filesOf_of_ne hFile, h]

/-- An empty element outside of any function. -/
theorem empty_outside {c : Collector} (position : Nat) (tag : Tag) (hcurrent : c.current = none)
    (hopen : c.names = [] → c.sawRoot = false) :
    Brings (c.enter position tag true) (Legible (.element tag .nothing .nothing))
      (withForest { c with sawRoot := true } (.element tag .nothing .nothing)) := by
  refine (enter_outside position tag true hcurrent hopen).congr ?_ fun _ => ?_
  · by_cases h : tag.name = Utf8.encode "Function"
    · rw [legible_function h]
      simp only [Content.children, Content.everywhere, List.not_mem_nil, false_implies,
        implies_true, legible_nothing, and_true]
      tauto
    · rw [legible_other h]
      simp [h, legible_nothing]
  · by_cases h : tag.name = Utf8.encode "Function"
    · rw [if_pos h, withForest_function _ _ h]
      rfl
    · rw [if_neg h, ← withForest_element _ _ h]
      rfl

/-- A function element with its two tags. What is in it is directly in the open function. -/
theorem function_outside {c : Collector} {xs : List Located} {inner : Content} (p q : Nat)
    {tag : Tag} (h : tag.name = Utf8.encode "Function") (hcurrent : c.current = none)
    (hopen : c.names = [] → c.sawRoot = false) (hInner : Spells xs inner) :
    Brings (c.through p q tag xs) (Legible (.element tag inner .nothing))
      (withForest { c with sawRoot := true } (.element tag inner .nothing)) := by
  have henter := enter_outside p tag false hcurrent hopen
  simp only [if_pos h, Bool.false_eq_true, if_false] at henter
  have hinner := foldlM_direct hInner
    (c := push
      { c with sawRoot := true, current := some (c.names.length, declared tag .nothing) } tag)
    rfl rfl rfl
  rw [withContent_declared, setCurrent_eq rfl] at hinner
  have hleave := leave_function
    (c := addFiles { push { c with sawRoot := true } tag with
      current := some (c.names.length, declared tag inner) } (filesIn inner))
    q rfl rfl
  have helement : Brings (c.through p q tag xs) _ _ :=
    henter.bind fun _ => hinner.bind fun _ => Brings.of_eq hleave
  refine helement.congr ?_ fun _ => ?_
  · rw [legible_function h]
    simp only [legible_nothing]
    tauto
  · rw [withForest_function _ _ h]
    simp [addFiles, push, hcurrent]

/-- An element with its two tags outside of any function. What is in another element than a
function is outside of any function again. -/
theorem paired_outside {c : Collector} {xs : List Located} {inner : Content} (p q : Nat)
    (tag : Tag) (hcurrent : c.current = none) (hopen : c.names = [] → c.sawRoot = false)
    (hInner : Spells xs inner)
    (hOutside : ∀ c : Collector, c.current = none → c.names ≠ [] → c.sawRoot = true →
      Brings (xs.foldlM take c) (Legible inner) (c.withForest inner)) :
    Brings (c.through p q tag xs) (Legible (.element tag inner .nothing))
      (withForest { c with sawRoot := true } (.element tag inner .nothing)) := by
  by_cases h : tag.name = Utf8.encode "Function"
  · exact function_outside p q h hcurrent hopen hInner
  · have henter := enter_outside p tag false hcurrent hopen
    simp only [if_neg h] at henter
    have hinner := hOutside (push (addFiles { c with sawRoot := true } (filesOf tag)) tag) hcurrent
      (List.cons_ne_nil _ _) rfl
    have hleave := leave_element
      (c := withForest (push (addFiles { c with sawRoot := true } (filesOf tag)) tag) inner) q rfl
      fun k f hf => by
        cases hcurrent.symm.trans hf
    have helement : Brings (c.through p q tag xs) _ _ :=
      henter.bind fun _ => hinner.bind fun _ => Brings.of_eq hleave
    refine helement.congr ?_ fun _ => ?_
    · rw [legible_other h]
      simp only [legible_nothing]
      tauto
    · rw [← withForest_element _ _ h]
      rfl

/-- A forest outside of any function, within the root element. -/
theorem foldlM_outside {items : List Located} {d : Content} (h : Spells items d) :
    ∀ c : Collector, c.current = none → c.names ≠ [] → c.sawRoot = true →
      Brings (items.foldlM take c) (Legible d) (c.withForest d) := by
  induction h with
  | nothing =>
    intro c _ _ _
    exact Brings.ok legible_nothing c
  | aside hi _ ih =>
    intro c hcurrent hnames hroot
    rw [foldlM_aside c hi]
    exact ih c hcurrent hnames hroot
  | @empty i rest tag after hi _ ih =>
    intro c hcurrent hnames hroot
    rw [foldlM_empty c hi]
    have hfirst := empty_outside i.position tag hcurrent fun h => absurd h hnames
    rw [withRoot_eq hroot] at hfirst
    have hrest := ih (c.withForest (.element tag .nothing .nothing)) hcurrent hnames hroot
    refine (hfirst.bind fun _ => hrest).congr ?_ fun _ => ?_
    · exact (legible_append (.element tag .nothing .nothing) after).symm
    · exact withForest_append c (.element tag .nothing .nothing) after
  | @paired i j xs ys tag inner after hi hInner hj _ ihInner ihAfter =>
    intro c hcurrent hnames hroot
    rw [foldlM_paired c hi hj]
    have hfirst := paired_outside i.position j.position tag hcurrent
      (fun h => absurd h hnames) hInner ihInner
    rw [withRoot_eq hroot] at hfirst
    have hrest := ihAfter (c.withForest (.element tag inner .nothing)) hcurrent hnames hroot
    refine (hfirst.bind fun _ => hrest).congr ?_ fun _ => ?_
    · exact (legible_append (.element tag inner .nothing) after).symm
    · exact withForest_append c (.element tag inner .nothing) after

/-! ## The root element -/

/-- After the root element, no other element is taken. -/
theorem foldlM_after_root {items : List Located} {d : Content} (h : Spells items d)
    {c : Collector} (hnames : c.names = []) (hroot : c.sawRoot = true) :
    Brings (items.foldlM take c) (d = .nothing) c := by
  have hrefuse : ∀ position tag isEmpty, ∃ e, c.enter position tag isEmpty = .error e := by
    intro position tag isEmpty
    refine ⟨.secondRoot (Utf8.lossy tag.name) position, ?_⟩
    simp only [enter, hnames, hroot, List.isEmpty_nil, Bool.and_self, if_true]
  induction h with
  | nothing => exact Brings.ok rfl c
  | aside hi _ ih =>
    rw [foldlM_aside c hi]
    exact ih
  | @empty i rest tag after hi _ _ =>
    obtain ⟨e, he⟩ := hrefuse i.position tag true
    rw [foldlM_empty c hi, he]
    exact Brings.error (by simp) e c
  | @paired i j xs ys tag inner after hi _ hj _ _ _ =>
    obtain ⟨e, he⟩ := hrefuse i.position tag false
    rw [foldlM_paired c hi hj, through, he]
    exact Brings.error (by simp) e c

/-- The items of a document with at least one element. -/
theorem foldlM_root {items : List Located} {tag : Tag} {inner after : Content}
    (h : Spells items (.element tag inner after)) :
    Brings (items.foldlM take {}) (Legible (.element tag inner .nothing) ∧ after = .nothing)
      (withForest { sawRoot := true } (.element tag inner .nothing)) := by
  generalize hd : Content.element tag inner after = d at h
  induction h with
  | nothing => cases hd
  | aside hi _ ih =>
    rw [foldlM_aside _ hi]
    exact ih hd
  | @empty i rest tag' after' hi hrest _ =>
    cases hd
    rw [foldlM_empty _ hi]
    exact (empty_outside i.position tag rfl fun _ => rfl).bind fun _ =>
      foldlM_after_root hrest rfl rfl
  | @paired i j xs ys tag' inner' after' hi hInner hj hrest _ _ =>
    cases hd
    rw [foldlM_paired _ hi hj]
    exact (paired_outside i.position j.position tag rfl (fun _ => rfl) hInner
      (foldlM_outside hInner)).bind fun _ => foldlM_after_root hrest rfl rfl

end Collector

end BindingCoverage.Dump
