import BindingCoverage.Proofs.Declaration.Checked
import BindingCoverage.Proofs.Dump.Place

/-!
# Which function an error names

Errors about a function name it by an index. `FunctionAt` says which function has an index:
functions that are within no other one are counted, in the order of their tags.

* `FunctionAt.unique`, `exists_functionAt_iff`: an index belongs to one function at most, and which
  indices do is read off the tags.
* `functionTags_of_spells`: in a document the functions are numbered in the order of its elements.
* `decode_error_index`: the index of an error is that of the function that is at fault. The index is
  that of the functions read so far when the line of a function is no number, and the place in the
  list of all functions when a name is missing.
-/

namespace BindingCoverage.Dump

open Xml

/-- After the items `before`, the item `i` is the tag of the function with this index: the function
is within no other one, and so many such functions start before it. -/
structure FunctionAt (items : List Located) (index : Nat) (before : List Located) (i : Located)
    (tag : Tag) : Prop where
  items : ∃ after, items = before ++ i :: after
  item : i.item.tag? = some tag
  outermost : OpensFunction (openAfter before) tag
  index : (functionTags before).length = index

/-- The function has no name, or an empty one, or one of blanks only. -/
def Nameless (tag : Tag) : Prop := ∀ name, tag.text? "name" = some name → Text.Blank name

theorem nameless_iff {tag : Tag} : Nameless tag ↔ Text.isBlankText (nameOf tag) = true := by
  unfold Nameless nameOf
  cases tag.text? "name" with
  | none => exact iff_of_true nofun rfl
  | some name =>
    rw [Option.getD_some, Text.isBlankText_iff]
    exact ⟨fun h => h name rfl, fun h name' hname => Option.some.inj hname ▸ h⟩

/-! ## Numbers and places -/

variable {items before before' : List Located} {i i' : Located} {index : Nat} {tag tag' : Tag}

theorem FunctionAt.functionTags_concat (h : FunctionAt items index before i tag) :
    functionTags (before ++ [i]) = functionTags before ++ [tag] := by
  rw [Dump.functionTags_concat, opened, h.item]
  exact congrArg (functionTags before ++ ·) (if_pos h.outermost)

/-- An item is the tag of one function at most. -/
theorem of_getElem?_opened {names : List (List UInt8)} {item : Item} {k : Nat}
    (h : (opened names item)[k]? = some tag) :
    k = 0 ∧ item.tag? = some tag ∧ OpensFunction names tag := by
  unfold opened at h
  cases htag : item.tag? with
  | none => simp [htag] at h
  | some tag' =>
    by_cases hopens : OpensFunction names tag'
    · simp only [htag, if_pos hopens, List.getElem?_singleton] at h
      split_ifs at h with hzero
      cases h
      exact ⟨hzero, rfl, hopens⟩
    · simp [htag, hopens] at h

theorem functionTags_isPrefix (xs ys : List Located) :
    functionTags xs <+: functionTags (xs ++ ys) := by
  unfold functionTags
  rw [functionTagsFrom_append]
  exact List.prefix_append _ _

/-- A function with the same index does not start later. -/
theorem FunctionAt.length_le (h : FunctionAt items index before i tag)
    (h' : FunctionAt items index before' i' tag') : before'.length ≤ before.length := by
  by_contra hlater
  obtain ⟨after, hitems⟩ := h.items
  obtain ⟨after', hitems'⟩ := h'.items
  have hprefix : before ++ [i] <+: before' := by
    refine List.prefix_of_prefix_length_le ⟨after, ?_⟩ ⟨i' :: after', hitems'.symm⟩ ?_
    · rw [hitems, List.append_assoc, List.singleton_append]
    · rw [List.length_append, List.length_singleton]
      omega
  obtain ⟨rest, rfl⟩ := hprefix
  have hle := (functionTags_isPrefix (before ++ [i]) rest).length_le
  rw [h'.index, h.functionTags_concat, List.length_append, h.index, List.length_singleton] at hle
  omega

theorem FunctionAt.unique (h : FunctionAt items index before i tag)
    (h' : FunctionAt items index before' i' tag') : before = before' ∧ i = i' ∧ tag = tag' := by
  have hlength : before.length = before'.length := Nat.le_antisymm (h'.length_le h) (h.length_le h')
  obtain ⟨after, hitems⟩ := h.items
  obtain ⟨after', hitems'⟩ := h'.items
  obtain ⟨rfl, hrest⟩ := List.append_inj (hitems.symm.trans hitems') hlength
  obtain ⟨rfl, -⟩ := List.cons.inj hrest
  exact ⟨rfl, rfl, Option.some.inj (h.item.symm.trans h'.item)⟩

/-- The functions that have indices are those whose tags are among the items. -/
theorem exists_functionAt_iff :
    (∃ before i, FunctionAt items index before i tag) ↔
      (functionTags items)[index]? = some tag := by
  constructor
  · rintro ⟨before, i, h⟩
    obtain ⟨after, hitems⟩ := h.items
    have hprefix := functionTags_isPrefix (before ++ [i]) after
    rw [h.functionTags_concat, List.append_assoc, List.singleton_append, ← hitems] at hprefix
    obtain ⟨rest, hrest⟩ := hprefix
    rw [← hrest, ← h.index, List.append_assoc, List.getElem?_append_right (Nat.le_refl _),
      Nat.sub_self]
    rfl
  · -- From the end: the last item is the tag of the last function, if it is one.
    intro h
    induction items using List.reverseRecOn with
    | nil => cases h
    | append_singleton items i ih =>
      rw [Dump.functionTags_concat] at h
      by_cases hlt : index < (functionTags items).length
      · rw [List.getElem?_append_left hlt] at h
        obtain ⟨before, j, hj⟩ := ih h
        obtain ⟨after, hitems⟩ := hj.items
        exact ⟨before, j, ⟨after ++ [i], by rw [hitems]; simp⟩, hj.item, hj.outermost, hj.index⟩
      · have hle := Nat.le_of_not_lt hlt
        rw [List.getElem?_append_right hle] at h
        obtain ⟨hzero, htag, hopens⟩ := of_getElem?_opened h
        have hindex := Nat.le_antisymm hle (Nat.le_of_sub_eq_zero hzero)
        exact ⟨items, i, ⟨[], rfl⟩, htag, hopens, hindex⟩

/-! ## Functions of a document -/

theorem foldl_within_of_spells {d : Content} (h : Spells items d) :
    ∀ names, items.foldl (fun names i => i.item.within names) names = names := by
  induction h with
  | nothing => intro names; rfl
  | aside hi _ ih =>
    intro names
    rw [List.foldl_cons, hi]
    exact ih names
  | empty hi _ ih =>
    intro names
    rw [List.foldl_cons, hi]
    exact ih names
  | paired hi _ hj _ ihInner ihAfter =>
    intro names
    rw [List.foldl_append, List.foldl_cons, List.foldl_cons, hi, hj, ihInner]
    exact ihAfter names

theorem functionTagsFrom_of_spells {d : Content} (h : Spells items d) :
    ∀ names, functionTagsFrom names items =
      if Utf8.encode "Function" ∈ names then []
      else (d.outermost (Utf8.encode "Function")).map Prod.fst := by
  induction h with
  | nothing =>
    intro names
    simp [functionTagsFrom, Content.outermost]
  | aside hi _ ih =>
    intro names
    rw [functionTagsFrom, hi]
    exact ih names
  | @empty i rest tag after hi _ ih =>
    intro names
    rw [functionTagsFrom, hi, opened, Item.tag?, Item.within, ih, Content.outermost]
    by_cases hnames : Utf8.encode "Function" ∈ names
    · simp [hnames, OpensFunction]
    · by_cases hname : tag.name = Utf8.encode "Function"
      · simp [hnames, hname, OpensFunction]
      · simp [hnames, hname, OpensFunction, Content.outermost]
  | @paired i j xs ys tag inner after hi hinner hj _ ihInner ihAfter =>
    intro names
    have hopened : functionTagsFrom names (i :: xs ++ j :: ys) =
        (if OpensFunction names tag then [tag] else []) ++
          functionTagsFrom (tag.name :: names) xs ++ functionTagsFrom names ys := by
      rw [List.cons_append, functionTagsFrom, hi, functionTagsFrom_append, Item.within,
        foldl_within_of_spells hinner, functionTagsFrom, hj]
      simp [opened, Item.tag?, Item.within]
    rw [hopened, ihInner, ihAfter, Content.outermost]
    by_cases hnames : Utf8.encode "Function" ∈ names
    · simp [hnames, OpensFunction]
    · by_cases hname : tag.name = Utf8.encode "Function"
      · simp [hnames, hname, OpensFunction]
      · simp [hnames, hname, Ne.symm hname, OpensFunction]

theorem functionTags_of_spells {d : Content} (h : Spells items d) :
    functionTags items = (d.outermost (Utf8.encode "Function")).map Prod.fst := by
  rw [functionTags, functionTagsFrom_of_spells h, if_neg List.not_mem_nil]

/-! ## Errors -/

theorem RefusedLine.functionAt {key text : String} (h : RefusedLine before i index key text)
    (hitems : ∃ after, items = before ++ i :: after) :
    ∃ tag, FunctionAt items index before i tag ∧ Consults tag key text ∧ ¬ ∃ n, IsLine text n := by
  obtain ⟨tag, htag, hopens, -, hconsults⟩ := h.tag
  exact ⟨tag, ⟨hitems, htag, hopens, h.index⟩, hconsults, h.text⟩

/-- A name is missing only where there is no other defect, and then the first function without a
name is at fault. -/
theorem nameless_of_missingName {feed : Feed} (h : decode feed = .error (.missingName ⟨index⟩)) :
    ∃ tags tag later, functionTags (read feed).items = tags ++ tag :: later ∧
      tags.length = index ∧ Nameless tag ∧ ∀ t ∈ tags, ¬ Nameless t := by
  obtain ⟨before, i, after, -, -, hdefect⟩ | ⟨f, -, he⟩ | hend := decode_error_cases h
  · exact (defect_ofItem hdefect).elim
  · cases he
  · obtain ⟨name, he⟩ | he | ⟨index', he, hindex⟩ := endDefect_cases hend
    · cases he
    · cases he
    · cases he
      obtain ⟨tags, tag, later, htags, hlength, htag, hearlier⟩ := findIdx?_eq_some_iff.mp hindex
      refine ⟨tags, tag, later, htags, hlength, nameless_iff.mpr htag, fun t ht hblank => ?_⟩
      rw [nameless_iff, hearlier t ht] at hblank
      cases hblank

/-- The index of an error names the function at fault: the first one whose line is refused, if no
item before it has a defect, and the first one without a name. Indices count the functions that are
within no other one, no two of them have the same index, and in a document they are numbered in the
order of its elements. -/
theorem decode_error_index (feed : Feed) :
    (∀ index key text, decode feed = .error (.invalidLine index key text) →
      ∃ before i tag, FunctionAt (read feed).items index before i tag ∧ Sound before ∧
        Consults tag key text ∧ ¬ ∃ n, IsLine text n) ∧
    (∀ index, decode feed = .error (.missingName ⟨index⟩) →
      ∃ before i tag, FunctionAt (read feed).items index before i tag ∧ Nameless tag ∧
        ∀ index' < index, ∀ before' i' tag',
          FunctionAt (read feed).items index' before' i' tag' → ¬ Nameless tag') ∧
    (∀ index before i tag before' i' tag', FunctionAt (read feed).items index before i tag →
      FunctionAt (read feed).items index before' i' tag' →
      before = before' ∧ i = i' ∧ tag = tag') ∧
    ∀ root inner, (read feed).IsDocument root inner → ∀ index tag,
      (∃ before i, FunctionAt (read feed).items index before i tag) ↔
        ((Content.outermost (Utf8.encode "Function") (.element root inner .nothing)).map
          Prod.fst)[index]? = some tag := by
  refine ⟨?_, ?_, fun _ _ _ _ _ _ _ h h' => h.unique h', ?_⟩
  · intro index key text h
    obtain ⟨before, i, after, hitems, hsound, hrefused⟩ := decode_eq_invalidLine_iff.mp h
    obtain ⟨tag, hat, hconsults, hnone⟩ := hrefused.functionAt ⟨after, hitems⟩
    exact ⟨before, i, tag, hat, hsound, hconsults, hnone⟩
  · intro index h
    obtain ⟨tags, tag, later, htags, rfl, hnameless, hearlier⟩ := nameless_of_missingName h
    obtain ⟨before, i, hat⟩ :
        ∃ before i, FunctionAt (read feed).items tags.length before i tag := by
      rw [exists_functionAt_iff, htags, List.getElem?_append_right (Nat.le_refl _), Nat.sub_self]
      rfl
    refine ⟨before, i, tag, hat, hnameless, fun index' hlt before' i' tag' hat' => ?_⟩
    have htag' := exists_functionAt_iff.mp ⟨before', i', hat'⟩
    rw [htags, List.getElem?_append_left hlt] at htag'
    exact hearlier tag' (List.mem_of_getElem? htag')
  · intro root inner hdocument index tag
    rw [exists_functionAt_iff, functionTags_of_spells hdocument.spelled]

/-- Functions within functions, other elements and a name that comes twice, before a function whose
line is refused and before one without a name. -/
theorem decode_error_index_nested :
    ∃ feed feed' : Feed,
      feed = .whole (Utf8.encode
        ("<r><Function name='f'><Function line='x'/></Function><a line='x'/>" ++
        "<b><Function name='f'/></b><Function name='g' location='f1:x'/></r>")) ∧
      feed' = .whole (Utf8.encode ("<r><Function name='f'><Function/></Function><a/>" ++
        "<b><Function name='f'></Function></b><Function name=' &#9;'/><Function/></r>")) ∧
      decode feed = .error (.invalidLine 2 "location" "x") ∧
      decode feed' = .error (.missingName ⟨2⟩) ∧
      (∃ before i tag, FunctionAt (read feed).items 2 before i tag ∧ Sound before ∧
        Consults tag "location" "x" ∧ ¬ ∃ n, IsLine "x" n) ∧
      ∃ before i tag, FunctionAt (read feed').items 2 before i tag ∧ Nameless tag ∧
        ∀ index' < 2, ∀ before' i' tag',
          FunctionAt (read feed').items index' before' i' tag' → ¬ Nameless tag' := by
  refine ⟨_, _, rfl, rfl, ?line, ?name, (decode_error_index _).1 _ _ _ ?line,
    (decode_error_index _).2.1 _ ?name⟩
  case line => decide +kernel
  case name => decide +kernel

end BindingCoverage.Dump
