import BindingCoverage.Dump.Collector
import BindingCoverage.Proofs.Dump.Functions

/-!
# One step of the collector

What the collector does with a tag depends on where it stands: deep within the open function,
directly in it, or outside of any. In each place the collector gets through exactly when what it
looks at can be read.

* `attributesOf_brings`, `declarationOf_brings`: the attributes of a tag are read exactly when they
  can be, and a function tag then brings what `declared` says.
* `enter_deep`, `enter_direct`, `enter_outside`: one tag in each of the places.
* `foldlM_names`: the collector has the names of the open elements.
-/

namespace BindingCoverage.Dump

open Xml

/-! ## Attributes -/

theorem text_brings (a : Attribute) :
    Brings a.text (∃ text, a.text = .ok text) (a.text.toOption.getD "") := by
  intro text
  cases h : a.text with
  | error e => simp
  | ok text' => simp [Except.toOption, eq_comm]

theorem mapM_texts_brings (position : Nat) (attributes : List Attribute) :
    Brings
      (attributes.mapM fun a => do return (a.key, ← a.text.mapError (Error.markup position)))
      (∀ a ∈ attributes, ∃ text, a.text = .ok text)
      (attributes.map fun a => (a.key, a.text.toOption.getD "")) := by
  induction attributes with
  | nil => exact Brings.ok (by simp) []
  | cons a rest ih =>
    rw [List.mapM_cons]
    have hhead := ((text_brings a).mapError (Error.markup position)).map (a.key, ·)
    refine (hhead.bind fun _ => ih.map _).congr ?_ fun _ => rfl
    simp only [List.forall_mem_cons]

theorem attributesOf_brings (position : Nat) (tag : Tag) :
    Brings (attributesOf position tag) tag.Readable
      (tag.attributes.read.map fun a => (a.key, a.text.toOption.getD "")) := by
  unfold attributesOf
  refine ((mapM_texts_brings position tag.attributes.read).bind
    (Q := tag.attributes.error = none) fun _ => ?_).congr ?_ fun _ => rfl
  · cases herror : tag.attributes.error with
    | none => exact Brings.ok rfl _
    | some e => exact Brings.error (by simp) _ _
  · rw [Tag.readable_iff]
    exact and_comm

theorem textOf?_texts {tag : Tag} (h : tag.Readable) (key : String) :
    textOf? (tag.attributes.read.map fun a => (a.key, a.text.toOption.getD "")) key =
      tag.text? key := by
  unfold textOf? Tag.text?
  rw [List.find?_map]
  cases hfind : tag.attributes.read.find? (·.key == Utf8.encode key) with
  | none => simp [hfind]
  | some a =>
    obtain ⟨text, htext⟩ := (Tag.readable_iff.mp h).2 a (List.mem_of_find?_eq_some hfind)
    simp [hfind, htext, Except.toOption]

theorem declarationOf_brings (index position : Nat) (tag : Tag) :
    Brings (declarationOf index position tag) (tag.Readable ∧ LineReads tag)
      (declared tag .nothing) := by
  unfold declarationOf
  refine ((attributesOf_brings position tag).bind (Q := LineReads tag) fun hread => ?_)
  simp only [textOf?_texts hread]
  exact (locate_brings index tag).map _

namespace Collector

/-- The collector with more names of files. -/
def addFiles (c : Collector) (files : List (String × String)) : Collector :=
  { c with files := files.reverse ++ c.files }

@[simp] theorem addFiles_nil (c : Collector) : c.addFiles [] = c := rfl

@[simp] theorem addFiles_addFiles (c : Collector) (fs gs : List (String × String)) :
    (c.addFiles fs).addFiles gs = c.addFiles (fs ++ gs) := by
  simp [addFiles]

@[simp] theorem setCurrent_setCurrent (c : Collector) (f g : Declaration) :
    (c.setCurrent f).setCurrent g = c.setCurrent g := by
  cases hcurrent : c.current with
  | none => simp [setCurrent, hcurrent]
  | some function => simp [setCurrent, hcurrent]

@[simp] theorem addFiles_setCurrent (c : Collector) (fs : List (String × String))
    (f : Declaration) : (c.addFiles fs).setCurrent f = (c.setCurrent f).addFiles fs := rfl

theorem setCurrent_eq {c : Collector} {k : Nat} {f : Declaration}
    (h : c.current = some (k, f)) (g : Declaration) :
    c.setCurrent g = { c with current := some (k, g) } := by
  simp [setCurrent, h]

theorem setCurrent_current {c : Collector} {k : Nat} {f : Declaration}
    (h : c.current = some (k, f)) (g : Declaration) : (c.setCurrent g).current = some (k, g) := by
  rw [setCurrent_eq h]

theorem setCurrent_self {c : Collector} {k : Nat} {f : Declaration}
    (h : c.current = some (k, f)) : c.setCurrent f = c := by
  rw [setCurrent_eq h, ← h]

/-! ## Tags -/

theorem enterFile_brings (c : Collector) (position : Nat) (tag : Tag) :
    Brings (c.enterFile position tag) tag.Readable
      (c.addFiles (fileOf tag).toList) := by
  unfold enterFile
  refine (attributesOf_brings position tag).andThen fun hread => ?_
  simp only [textOf?_texts hread, fileOf]
  cases tag.text? "id" with
  | none => rfl
  | some id =>
    cases tag.text? "name" with
    | none => rfl
    | some name => rfl

theorem enterArgument_brings {c : Collector} {f : Declaration} (position : Nat) (tag : Tag)
    (hplace : c.inFunction = some f) :
    Brings (c.enterArgument position tag) tag.Readable
      (c.setCurrent { f with parameters := f.parameters ++ [parameterOf tag] }) := by
  unfold enterArgument
  simp only [hplace]
  refine (attributesOf_brings position tag).andThen fun hread => ?_
  simp only [textOf?_texts hread]
  rfl

theorem enterFunction_brings {c : Collector} (position : Nat) (tag : Tag) (isEmpty : Bool)
    (hcurrent : c.current = none) :
    Brings (c.enterFunction position tag isEmpty) (tag.Readable ∧ LineReads tag)
      (if isEmpty then { c with complete := declared tag .nothing :: c.complete }
        else { c with current := some (c.names.length, declared tag .nothing) }) := by
  unfold enterFunction
  simp only [hcurrent]
  refine (declarationOf_brings c.complete.length position tag).andThen fun _ => ?_
  cases isEmpty with
  | false => rfl
  | true => rfl

/-- The tags that count for nothing or as files. -/
theorem enterElement_other {c : Collector} (position : Nat) {tag : Tag} (isEmpty : Bool)
    (hFunction : tag.name = Utf8.encode "Function" → c.current.isSome)
    (hArgument : tag.name = Utf8.encode "Argument" → c.inFunction = none)
    (hEllipsis : tag.name = Utf8.encode "Ellipsis" → c.inFunction = none) :
    Brings (c.enterElement position tag isEmpty)
      (tag.name = Utf8.encode "File" → tag.Readable)
      (c.addFiles (filesOf tag)) := by
  have hpass : tag.name ≠ Utf8.encode "File" → Brings (.ok c : Except Error Collector)
      (tag.name = Utf8.encode "File" → tag.Readable) (c.addFiles (filesOf tag)) := by
    intro h
    rw [filesOf_of_ne h]
    exact Brings.ok (fun h' => absurd h' h) c
  unfold enterElement
  split_ifs with h h h h
  · have hskip : c.enterFunction position tag isEmpty = .ok c := by
      obtain ⟨f, hf⟩ := Option.isSome_iff_exists.mp (hFunction h)
      simp only [enterFunction, hf]
    rw [hskip]
    exact hpass (by rw [h]; decide)
  · simp only [enterArgument, hArgument h]
    exact hpass (by rw [h]; decide)
  · simp only [enterEllipsis, hEllipsis h]
    exact hpass (by rw [h]; decide)
  · exact (enterFile_brings c position tag).congr (by simp [h]) fun _ => by simp [filesOf, h]
  · exact hpass h

theorem enter_of_open {c : Collector} (position : Nat) (tag : Tag) (isEmpty : Bool)
    (hnames : c.names ≠ []) (hroot : c.sawRoot = true) :
    c.enter position tag isEmpty = c.enterElement position tag isEmpty := by
  obtain ⟨names, sawRoot, current, complete, files⟩ := c
  cases hroot
  cases names with
  | nil => exact absurd rfl hnames
  | cons name outer => rfl

/-- A tag deep within the open function. -/
theorem enter_deep {c : Collector} {k : Nat} {f : Declaration} (position : Nat) (tag : Tag)
    (isEmpty : Bool) (hcurrent : c.current = some (k, f)) (hdepth : k + 1 < c.names.length)
    (hroot : c.sawRoot = true) :
    Brings (c.enter position tag isEmpty) (tag.name = Utf8.encode "File" → tag.Readable)
      (c.addFiles (filesOf tag)) := by
  have hplace : c.inFunction = none := by
    simp [inFunction, hcurrent, Nat.ne_of_lt hdepth]
  have hnames : c.names ≠ [] := by
    rintro h
    rw [h] at hdepth
    cases hdepth
  rw [enter_of_open position tag isEmpty hnames hroot]
  exact enterElement_other position isEmpty (fun _ => by rw [hcurrent]; rfl) (fun _ => hplace)
    fun _ => hplace

/-- A tag directly in the open function. -/
theorem enter_direct {c : Collector} {k : Nat} {f : Declaration} (position : Nat) (tag : Tag)
    (isEmpty : Bool) (hcurrent : c.current = some (k, f)) (hdepth : k + 1 = c.names.length)
    (hroot : c.sawRoot = true) :
    Brings (c.enter position tag isEmpty)
      ((tag.name = Utf8.encode "Argument" → tag.Readable) ∧
        (tag.name = Utf8.encode "File" → tag.Readable))
      ((c.setCurrent (withChild f tag)).addFiles (filesOf tag)) := by
  have hplace : c.inFunction = some f := by
    simp [inFunction, hcurrent, hdepth]
  have hnames : c.names ≠ [] := by
    rintro h
    rw [h] at hdepth
    cases hdepth
  rw [enter_of_open position tag isEmpty hnames hroot]
  by_cases hArgument : tag.name = Utf8.encode "Argument"
  · have hFile : tag.name ≠ Utf8.encode "File" := by rw [hArgument]; decide
    have henter : c.enterElement position tag isEmpty = c.enterArgument position tag := by
      unfold enterElement
      rw [if_neg (by rw [hArgument]; decide), if_pos hArgument]
    rw [henter, withChild_argument f hArgument, filesOf_of_ne hFile]
    refine (enterArgument_brings position tag hplace).congr ?_ fun _ => ?_
    · exact ⟨fun h => ⟨fun _ => h, fun h' => absurd h' hFile⟩, fun h => h.1 hArgument⟩
    · simp [setCurrent, hcurrent]
  · by_cases hEllipsis : tag.name = Utf8.encode "Ellipsis"
    · have hFile : tag.name ≠ Utf8.encode "File" := by rw [hEllipsis]; decide
      have henter : c.enterElement position tag isEmpty = .ok c.enterEllipsis := by
        unfold enterElement
        rw [if_neg (by rw [hEllipsis]; decide), if_neg hArgument, if_pos hEllipsis]
      rw [henter, withChild_ellipsis f hEllipsis, filesOf_of_ne hFile]
      refine (Brings.ok trivial _).congr ?_ fun _ => ?_
      · exact ⟨fun _ => ⟨fun h => absurd h hArgument, fun h => absurd h hFile⟩, fun _ => trivial⟩
      · simp [enterEllipsis, hplace, setCurrent, hcurrent]
    · rw [withChild_other f hArgument hEllipsis]
      refine (enterElement_other position isEmpty (fun _ => by rw [hcurrent]; rfl)
        (fun h => absurd h hArgument) fun h => absurd h hEllipsis).congr ?_ fun _ => ?_
      · exact ⟨fun h => ⟨fun h' => absurd h' hArgument, h⟩, fun h => h.2⟩
      · rw [setCurrent_self hcurrent]

/-- A tag outside of any function, of the root element or within it. -/
theorem enter_outside {c : Collector} (position : Nat) (tag : Tag) (isEmpty : Bool)
    (hcurrent : c.current = none) (hopen : c.names = [] → c.sawRoot = false) :
    Brings (c.enter position tag isEmpty)
      ((tag.name = Utf8.encode "Function" → tag.Readable ∧ LineReads tag) ∧
        (tag.name = Utf8.encode "File" → tag.Readable))
      (if tag.name = Utf8.encode "Function" then
        if isEmpty then
          { c with sawRoot := true, complete := declared tag .nothing :: c.complete }
        else
          { c with sawRoot := true, current := some (c.names.length, declared tag .nothing) }
      else { c with sawRoot := true }.addFiles (filesOf tag)) := by
  have hguard : (c.names.isEmpty && c.sawRoot) = false := by
    cases h : c.names with
    | nil => rw [hopen h]; rfl
    | cons name outer => rfl
  have hplace : { c with sawRoot := true }.inFunction = none := by
    simp [inFunction, hcurrent]
  unfold enter
  rw [hguard]
  simp only [Bool.false_eq_true, if_false]
  by_cases hFunction : tag.name = Utf8.encode "Function"
  · have hFile : tag.name ≠ Utf8.encode "File" := by rw [hFunction]; decide
    simp only [if_pos hFunction, enterElement]
    refine (enterFunction_brings (c := { c with sawRoot := true }) position tag isEmpty
      hcurrent).congr ?_ fun _ => rfl
    exact ⟨fun h => ⟨fun _ => h, fun h' => absurd h' hFile⟩, fun h => h.1 hFunction⟩
  · simp only [if_neg hFunction]
    refine (enterElement_other (c := { c with sawRoot := true }) position isEmpty
      (fun h => absurd h hFunction) (fun _ => hplace) fun _ => hplace).congr ?_ fun _ => rfl
    exact ⟨fun h => ⟨fun h' => absurd h' hFunction, h⟩, fun h => h.2⟩

/-! ## Open elements -/

theorem enterElement_names {c c' : Collector} {position : Nat} {tag : Tag} {isEmpty : Bool}
    (h : c.enterElement position tag isEmpty = .ok c') : c'.names = c.names := by
  unfold enterElement at h
  split_ifs at h
  · unfold enterFunction at h
    split at h
    · cases h; rfl
    · obtain ⟨d, -, h⟩ := exists_of_bind_eq_ok h
      cases isEmpty with
      | false => cases h; rfl
      | true => cases h; rfl
  · unfold enterArgument at h
    split at h
    · cases h; rfl
    · obtain ⟨attributes, -, h⟩ := exists_of_bind_eq_ok h
      cases h
      rfl
  · cases h
    unfold enterEllipsis
    split
    · rfl
    · rfl
  · unfold enterFile at h
    obtain ⟨attributes, -, h⟩ := exists_of_bind_eq_ok h
    dsimp only at h
    split at h
    · cases h; rfl
    · cases h; rfl
  · cases h
    rfl

theorem enter_names {c c' : Collector} {position : Nat} {tag : Tag} {isEmpty : Bool}
    (h : c.enter position tag isEmpty = .ok c') : c'.names = c.names := by
  unfold enter at h
  split_ifs at h
  exact enterElement_names (c := { c with sawRoot := true }) h

theorem leave_names {c c' : Collector} {position : Nat} {name : List UInt8}
    (h : c.leave position name = .ok c') : c.names = Utf8.lossy name :: c'.names := by
  unfold leave at h
  dsimp only at h
  split at h
  · cases h
  · rename_i expected outer hnames
    split at h
    · rename_i hname
      subst hname
      split at h
      · split at h
        · cases h; exact hnames
        · cases h; exact hnames
      · cases h; exact hnames
    · cases h

/-- The collector has the names of the elements that are open. -/
theorem take_names {c c' : Collector} {i : Located} {names names' : List (List UInt8)}
    (h : c.take i = .ok c') (hnest : nest names i.item = .ok names')
    (hnames : c.names = names.map Utf8.lossy) : c'.names = names'.map Utf8.lossy := by
  unfold take at h
  cases hi : i.item with
  | aside =>
    rw [hi] at h hnest
    cases h
    cases hnest
    exact hnames
  | empty tag =>
    rw [hi] at h hnest
    cases hnest
    exact (enter_names h).trans hnames
  | start tag =>
    rw [hi] at h hnest
    cases hnest
    obtain ⟨opened, hopened, h⟩ := exists_of_bind_eq_ok h
    cases h
    rw [List.map_cons, ← hnames, ← enter_names hopened]
  | close name =>
    rw [hi] at h hnest
    have hleave := leave_names h
    cases names with
    | nil => cases hnest
    | cons expected outer =>
      unfold nest at hnest
      dsimp only at hnest
      split_ifs at hnest
      cases hnest
      rw [hnames, List.map_cons] at hleave
      exact (List.cons.inj hleave).2.symm

theorem foldlM_names {items : List Located} :
    ∀ {c c' : Collector} {names names' : List (List UInt8)}, items.foldlM take c = .ok c' →
      nestAll names items = .ok names' → c.names = names.map Utf8.lossy →
      c'.names = names'.map Utf8.lossy := by
  induction items with
  | nil =>
    intro c c' names names' h hnest hnames
    cases h
    cases hnest
    exact hnames
  | cons i rest ih =>
    intro c c' names names' h hnest hnames
    rw [List.foldlM_cons] at h
    rw [nestAll_cons] at hnest
    obtain ⟨c₁, hc₁, h⟩ := exists_of_bind_eq_ok h
    obtain ⟨names₁, hnames₁, hnest⟩ := exists_of_bind_eq_ok hnest
    exact ih h hnest (take_names hc₁ hnames₁ hnames)

end Collector

end BindingCoverage.Dump
