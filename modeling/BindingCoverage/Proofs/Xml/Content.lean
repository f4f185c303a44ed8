import BindingCoverage.Proofs.Results
import BindingCoverage.Xml.Nesting

/-!
# The elements of a document

A `Content` is the forest of elements in a stretch of a document. `Spells items d` says that the
items write the forest `d`: an empty-element tag counts as a start tag with its end tag right after
it, and what is no tag counts for nothing.

* `Spells.unique`: items write at most one forest. It is the one that `gather` puts together from
  the last item to the first.
* `completes_of_nestAll`: nested items write a forest if nothing stays open.
-/

namespace BindingCoverage.Xml

/-- The elements in a stretch of a document: none, or an element with what is in it and what comes
after it. -/
inductive Content where
  | nothing
  | element (tag : Tag) (inner after : Content)
  deriving DecidableEq, Repr

namespace Content

protected def append : Content → Content → Content
  | nothing, e => e
  | element tag inner after, e => element tag inner (after.append e)

instance : Append Content := ⟨Content.append⟩

@[simp] theorem nothing_append (e : Content) : nothing ++ e = e := rfl

@[simp] theorem element_append (tag : Tag) (inner after e : Content) :
    element tag inner after ++ e = element tag inner (after ++ e) := rfl

@[simp] theorem append_nothing (d : Content) : d ++ nothing = d := by
  induction d with
  | nothing => rfl
  | element tag inner after _ ih => rw [element_append, ih]

theorem append_assoc (d e f : Content) : d ++ e ++ f = d ++ (e ++ f) := by
  induction d with
  | nothing => rfl
  | element tag inner after _ ih => simp only [element_append, ih]

/-! ## Parts of a forest -/

/-- The elements with this name that are within no other one with it, each with what is in it. -/
def outermost (name : List UInt8) : Content → List (Tag × Content)
  | nothing => []
  | element tag inner after =>
    (if tag.name = name then [(tag, inner)] else inner.outermost name) ++ after.outermost name

/-- The tags with this name that are within no element. -/
def children (name : List UInt8) : Content → List Tag
  | nothing => []
  | element tag _ after => (if tag.name = name then [tag] else []) ++ after.children name

/-- The tags with this name, however deep. -/
def everywhere (name : List UInt8) : Content → List Tag
  | nothing => []
  | element tag inner after =>
    (if tag.name = name then [tag] else []) ++ inner.everywhere name ++ after.everywhere name

theorem outermost_append (name : List UInt8) (d e : Content) :
    (d ++ e).outermost name = d.outermost name ++ e.outermost name := by
  induction d with
  | nothing => rfl
  | element tag inner after _ ih => simp [outermost, ih]

theorem everywhere_append (name : List UInt8) (d e : Content) :
    (d ++ e).everywhere name = d.everywhere name ++ e.everywhere name := by
  induction d with
  | nothing => rfl
  | element tag inner after _ ih => simp [everywhere, ih]

theorem forall_mem_everywhere {name : List UInt8} {tag : Tag} {inner after : Content}
    {P : Tag → Prop} :
    (∀ t ∈ (element tag inner after).everywhere name, P t) ↔
      (tag.name = name → P tag) ∧ (∀ t ∈ inner.everywhere name, P t) ∧
        ∀ t ∈ after.everywhere name, P t := by
  simp only [everywhere, List.forall_mem_append, and_assoc]
  by_cases h : tag.name = name
  · simp [h]
  · simp [h]

theorem forall_mem_children {name : List UInt8} {tag : Tag} {inner after : Content}
    {P : Tag → Prop} :
    (∀ t ∈ (element tag inner after).children name, P t) ↔
      (tag.name = name → P tag) ∧ ∀ t ∈ after.children name, P t := by
  simp only [children, List.forall_mem_append]
  by_cases h : tag.name = name
  · simp [h]
  · simp [h]

theorem forall_mem_outermost {name : List UInt8} {tag : Tag} {inner after : Content}
    {P : Tag × Content → Prop} :
    (∀ e ∈ (element tag inner after).outermost name, P e) ↔
      (if tag.name = name then P (tag, inner) else ∀ e ∈ inner.outermost name, P e) ∧
        ∀ e ∈ after.outermost name, P e := by
  simp only [outermost, List.forall_mem_append]
  by_cases h : tag.name = name
  · simp [h]
  · simp [h]

end Content

/-- The items that write a forest. -/
inductive Spells : List Located → Content → Prop where
  | nothing : Spells [] .nothing
  | aside {i : Located} {rest : List Located} {d : Content} :
    i.item = .aside → Spells rest d → Spells (i :: rest) d
  | empty {i : Located} {rest : List Located} {tag : Tag} {after : Content} :
    i.item = .empty tag → Spells rest after → Spells (i :: rest) (.element tag .nothing after)
  | paired {i j : Located} {xs ys : List Located} {tag : Tag} {inner after : Content} :
    i.item = .start tag → Spells xs inner → j.item = .close tag.name → Spells ys after →
    Spells (i :: xs ++ j :: ys) (.element tag inner after)

/-- A reading that gets to the end of its document, which has one outermost element, with this
tag and with `inner` in it. -/
structure Reading.IsDocument (r : Reading) (tag : Tag) (inner : Content) : Prop where
  faultless : r.fault = none
  spelled : Spells r.items (.element tag inner .nothing)

/-! ## Items write one forest -/

/-- The forests after an item, innermost first, from those after the next one. -/
def gather (i : Item) (forests : List Content) : List Content :=
  match i, forests with
  | .aside, _ => forests
  | .close _, _ => .nothing :: forests
  | .empty tag, after :: outer => .element tag .nothing after :: outer
  | .start tag, inner :: after :: outer => .element tag inner after :: outer
  | _, _ => forests

namespace Spells

theorem gather_eq {items : List Located} {d : Content} (h : Spells items d) :
    ∀ (e : Content) (outer : List Content),
      items.foldr (fun i => gather i.item) (e :: outer) = (d ++ e) :: outer := by
  induction h with
  | nothing => intro e outer; rfl
  | aside hi _ ih =>
    intro e outer
    rw [List.foldr_cons, ih, hi]
    rfl
  | empty hi _ ih =>
    intro e outer
    rw [List.foldr_cons, ih, hi]
    rfl
  | paired hi _ hj _ ihInner ihAfter =>
    intro e outer
    rw [List.foldr_append, List.foldr_cons, List.foldr_cons, ihAfter, hi, hj, gather, ihInner,
      Content.append_nothing]
    rfl

theorem unique {items : List Located} {d e : Content} (hd : Spells items d)
    (he : Spells items e) : d = e := by
  have hd' := hd.gather_eq .nothing []
  have he' := he.gather_eq .nothing []
  rw [hd', Content.append_nothing, Content.append_nothing] at he'
  exact (List.cons.inj he').1

theorem append {xs ys : List Located} {d e : Content} (hd : Spells xs d) (he : Spells ys e) :
    Spells (xs ++ ys) (d ++ e) := by
  induction hd with
  | nothing => exact he
  | aside hi _ ih => exact .aside hi ih
  | empty hi _ ih => exact .empty hi ih
  | paired hi hInner hj _ _ ih =>
    rw [List.append_assoc, List.cons_append, Content.element_append]
    exact .paired hi hInner hj ih

end Spells

/-! ## Nested items write a forest -/

/-- The open elements after items, innermost first. -/
def nestAll (names : List (List UInt8)) (items : List Located) :
    Except StructureError (List (List UInt8)) :=
  items.foldlM (fun names i => nest names i.item) names

theorem nestAll_cons (names : List (List UInt8)) (i : Located) (rest : List Located) :
    nestAll names (i :: rest) = nest names i.item >>= fun names => nestAll names rest :=
  List.foldlM_cons

theorem nestAll_append (names : List (List UInt8)) (xs ys : List Located) :
    nestAll names (xs ++ ys) = nestAll names xs >>= fun names => nestAll names ys :=
  List.foldlM_append

theorem nestedFrom_append {items rest : List Located} {fault : Option Fault} :
    ∀ {names names' : List (List UInt8)}, nestAll names items = .ok names' →
      nestedFrom names fault (items ++ rest) =
        ⟨items ++ (nestedFrom names' fault rest).items, (nestedFrom names' fault rest).fault⟩ := by
  induction items with
  | nil =>
    intro names names' h
    cases h
    rfl
  | cons i items ih =>
    intro names names' h
    rw [nestAll_cons] at h
    obtain ⟨next, hnext, hrest⟩ := exists_of_bind_eq_ok h
    simp only [List.cons_append, nestedFrom, hnext, ih hrest]
    rfl

theorem nestedFrom_of_nestAll {items : List Located} {fault : Option Fault}
    {names names' : List (List UInt8)} (h : nestAll names items = .ok names') :
    nestedFrom names fault items = ⟨items, fault⟩ := by
  calc nestedFrom names fault items = nestedFrom names fault (items ++ []) := by
        rw [List.append_nil]
    _ = ⟨items ++ [], fault⟩ := nestedFrom_append h
    _ = ⟨items, fault⟩ := by rw [List.append_nil]

/-- A reading in which all items fit is all of what was read. -/
theorem nestAll_of_nestedFrom {items : List Located} {fault : Option Fault} :
    ∀ {names : List (List UInt8)}, (nestedFrom names fault items).fault = none →
      fault = none ∧ ∃ names', nestAll names items = .ok names' := by
  induction items with
  | nil =>
    intro names h
    exact ⟨h, names, rfl⟩
  | cons i rest ih =>
    intro names h
    unfold nestedFrom at h
    cases hnext : nest names i.item with
    | error e => rw [hnext] at h; cases h
    | ok next =>
      rw [hnext] at h
      have hrest : (nestedFrom next fault rest).fault = none := h
      obtain ⟨hfault, names', hrest⟩ := ih hrest
      exact ⟨hfault, names', by rw [nestAll_cons, hnext]; exact hrest⟩

theorem Spells.nestAll_eq {items : List Located} {d : Content} (h : Spells items d) :
    ∀ names, nestAll names items = .ok names := by
  induction h with
  | nothing => intro names; rfl
  | aside hi _ ih =>
    intro names
    rw [nestAll_cons, hi]
    exact ih names
  | empty hi _ ih =>
    intro names
    rw [nestAll_cons, hi]
    exact ih names
  | @paired i j xs ys tag inner after hi _ hj _ ihInner ihAfter =>
    intro names
    have hopen : nest names i.item = .ok (tag.name :: names) := by rw [hi]; rfl
    have hclose : nest (tag.name :: names) j.item = .ok names := by
      rw [hj]
      simp only [nest, if_true]
    rw [nestAll_append, nestAll_cons, hopen]
    change (nestAll (tag.name :: names) xs >>= _) = _
    rw [ihInner]
    change nestAll (tag.name :: names) (j :: ys) = _
    rw [nestAll_cons, hclose]
    exact ihAfter names

/-- The items close the open elements one after the other, and write forests between the ends. -/
def Completes : List (List UInt8) → List Located → Prop
  | [], items => ∃ d, Spells items d
  | name :: outer, items =>
    ∃ xs j ys d, items = xs ++ j :: ys ∧ Spells xs d ∧ j.item = .close name ∧ Completes outer ys

theorem Completes.prepend {names : List (List UInt8)} {xs ys : List Located} {d : Content}
    (h : Spells xs d) (hc : Completes names ys) : Completes names (xs ++ ys) := by
  cases names with
  | nil =>
    obtain ⟨e, he⟩ := hc
    exact ⟨d ++ e, h.append he⟩
  | cons name outer =>
    obtain ⟨xs', j, ys', e, rfl, he, hj, hrest⟩ := hc
    exact ⟨xs ++ xs', j, ys', d ++ e, by rw [List.append_assoc], h.append he, hj, hrest⟩

/-- Nested items that leave nothing open write a forest. The induction goes over the items with
the open elements before them. -/
theorem completes_of_nestAll (items : List Located) :
    ∀ names, nestAll names items = .ok [] → Completes names items := by
  induction items with
  | nil =>
    intro names h
    cases h
    exact ⟨.nothing, .nothing⟩
  | cons i rest ih =>
    intro names h
    rw [nestAll_cons] at h
    cases hi : i.item with
    | aside =>
      rw [hi] at h
      have hone : Spells [i] .nothing := .aside hi .nothing
      exact (ih names h).prepend hone
    | empty tag =>
      rw [hi] at h
      have hone : Spells [i] (.element tag .nothing .nothing) := .empty hi .nothing
      exact (ih names h).prepend hone
    | start tag =>
      rw [hi] at h
      obtain ⟨xs, j, ys, d, rfl, hd, hj, hrest⟩ := ih (tag.name :: names) h
      have hpair := Spells.paired hi hd hj .nothing
      have := hrest.prepend hpair
      rwa [List.append_assoc] at this
    | close name =>
      rw [hi] at h
      cases names with
      | nil => cases h
      | cons expected outer =>
        by_cases hname : name = expected
        · subst hname
          simp only [nest, if_true] at h
          exact ⟨[], i, rest, .nothing, rfl, .nothing, hi, ih outer h⟩
        · simp only [nest, if_neg hname] at h
          cases h

end BindingCoverage.Xml
