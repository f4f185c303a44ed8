import BindingCoverage.Proofs.Dump.Location
import BindingCoverage.Proofs.Xml.Content

/-!
# The functions of a forest

What a dump declares, read off its elements: `functionsIn` has one declaration for each function
element that is within no other one, and `filesIn` has the names of the files. `Legible` says that
everything that is looked at for them can be read.

* `functionsIn_element`, `filesIn_element`: what an element adds to what comes after it.
* `withContent_element`: what an element directly in a function adds to its declaration.
* `legible_function`, `legible_other`: what has to be read in an element.
-/

namespace BindingCoverage.Dump

open Xml

/-- The parameter that the tag of an argument declares. -/
def parameterOf (tag : Tag) : Parameter where
  name := tag.text? "name"
  typeId := tag.text? "type"

/-- The declaration in a function element with this tag and `inner` in it. Its file is a
reference still. -/
def declared (tag : Tag) (inner : Content) : Declaration where
  name := (tag.text? "name").getD ""
  id := tag.text? "id"
  returns := tag.text? "returns"
  parameters := (inner.children (Utf8.encode "Argument")).map parameterOf
  variadic := !(inner.children (Utf8.encode "Ellipsis")).isEmpty
  isExtern := tag.text? "extern" == some "1"
  isInline := tag.text? "inline" == some "1"
  isStatic := tag.text? "static" == some "1"
  file := (placeOf tag).1
  line := (placeOf tag).2

/-- The id and the name in the tag of a file, if it has both. -/
def fileOf (tag : Tag) : Option (String × String) :=
  match tag.text? "id", tag.text? "name" with
  | some id, some name => some (id, name)
  | _, _ => none

def functionsIn (d : Content) : List Declaration :=
  (d.outermost (Utf8.encode "Function")).map fun f => declared f.1 f.2

def filesIn (d : Content) : List (String × String) :=
  (d.everywhere (Utf8.encode "File")).filterMap fileOf

/-- All that is looked at in a forest can be read: the attributes and the line of each function
element that is within no other one, and the attributes of its direct arguments and of all file
elements. -/
structure Legible (d : Content) : Prop where
  functions : ∀ f ∈ d.outermost (Utf8.encode "Function"), f.1.Readable ∧ LineReads f.1
  parameters : ∀ f ∈ d.outermost (Utf8.encode "Function"),
    ∀ tag ∈ f.2.children (Utf8.encode "Argument"), tag.Readable
  files : ∀ tag ∈ d.everywhere (Utf8.encode "File"), tag.Readable

/-! ## What the elements of a forest add -/

/-- What a file tag adds to the names of the files. -/
def filesOf (tag : Tag) : List (String × String) :=
  if tag.name = Utf8.encode "File" then (fileOf tag).toList else []

/-- What a tag directly in a function adds to its declaration. -/
def withChild (f : Declaration) (tag : Tag) : Declaration :=
  { f with
    parameters := f.parameters ++
      if tag.name = Utf8.encode "Argument" then [parameterOf tag] else []
    variadic := f.variadic || decide (tag.name = Utf8.encode "Ellipsis") }

/-- What a forest directly in a function adds to its declaration. -/
def withContent (f : Declaration) (d : Content) : Declaration :=
  { f with
    parameters := f.parameters ++ (d.children (Utf8.encode "Argument")).map parameterOf
    variadic := f.variadic || !(d.children (Utf8.encode "Ellipsis")).isEmpty }

@[simp] theorem filesIn_nothing : filesIn .nothing = [] := rfl

@[simp] theorem functionsIn_nothing : functionsIn .nothing = [] := rfl

theorem filesIn_element (tag : Tag) (inner after : Content) :
    filesIn (.element tag inner after) = filesOf tag ++ filesIn inner ++ filesIn after := by
  unfold filesIn filesOf
  by_cases h : tag.name = Utf8.encode "File"
  · cases hf : fileOf tag with
    | none => simp [Content.everywhere, h, hf]
    | some file => simp [Content.everywhere, h, hf]
  · simp [Content.everywhere, h]

theorem functionsIn_element (tag : Tag) (inner after : Content) :
    functionsIn (.element tag inner after) =
      (if tag.name = Utf8.encode "Function" then [declared tag inner] else functionsIn inner) ++
        functionsIn after := by
  unfold functionsIn
  by_cases h : tag.name = Utf8.encode "Function"
  · simp [Content.outermost, h]
  · simp [Content.outermost, h]

@[simp] theorem withContent_nothing (f : Declaration) : withContent f .nothing = f := by
  simp [withContent, Content.children]

theorem withContent_element (f : Declaration) (tag : Tag) (inner after : Content) :
    withContent f (.element tag inner after) = withContent (withChild f tag) after := by
  have hparameters : (Content.children (Utf8.encode "Argument") (.element tag inner after)).map
      parameterOf = (if tag.name = Utf8.encode "Argument" then [parameterOf tag] else []) ++
        (after.children (Utf8.encode "Argument")).map parameterOf := by
    simp only [Content.children, List.map_append, apply_ite (List.map parameterOf), List.map_cons,
      List.map_nil]
  have hvariadic : (!(Content.children (Utf8.encode "Ellipsis") (.element tag inner after)).isEmpty)
      = (decide (tag.name = Utf8.encode "Ellipsis") ||
        !(after.children (Utf8.encode "Ellipsis")).isEmpty) := by
    by_cases h : tag.name = Utf8.encode "Ellipsis"
    · simp [Content.children, h]
    · simp [Content.children, h]
  simp only [withContent, withChild, hparameters, hvariadic, List.append_assoc, Bool.or_assoc]

theorem withContent_declared (tag : Tag) (inner : Content) :
    withContent (declared tag .nothing) inner = declared tag inner := by
  simp [withContent, declared, Content.children]

theorem functionsIn_append (d e : Content) :
    functionsIn (d ++ e) = functionsIn d ++ functionsIn e := by
  simp [functionsIn, Content.outermost_append]

theorem filesIn_append (d e : Content) : filesIn (d ++ e) = filesIn d ++ filesIn e := by
  simp [filesIn, Content.everywhere_append]

theorem filesOf_of_ne {tag : Tag} (h : tag.name ≠ Utf8.encode "File") : filesOf tag = [] :=
  if_neg h

theorem withChild_argument {tag : Tag} (f : Declaration) (h : tag.name = Utf8.encode "Argument") :
    withChild f tag = { f with parameters := f.parameters ++ [parameterOf tag] } := by
  have hEllipsis : tag.name ≠ Utf8.encode "Ellipsis" := by rw [h]; decide
  simp only [withChild, if_pos h, hEllipsis, decide_false, Bool.or_false]

theorem withChild_ellipsis {tag : Tag} (f : Declaration) (h : tag.name = Utf8.encode "Ellipsis") :
    withChild f tag = { f with variadic := true } := by
  have hArgument : tag.name ≠ Utf8.encode "Argument" := by rw [h]; decide
  simp only [withChild, if_neg hArgument, decide_eq_true h, Bool.or_true, List.append_nil]

theorem withChild_other {tag : Tag} (f : Declaration)
    (hArgument : tag.name ≠ Utf8.encode "Argument")
    (hEllipsis : tag.name ≠ Utf8.encode "Ellipsis") : withChild f tag = f := by
  simp only [withChild, if_neg hArgument, hEllipsis, decide_false, Bool.or_false, List.append_nil]

/-! ## What is looked at -/

theorem legible_nothing : Legible .nothing :=
  ⟨by simp [Content.outermost], by simp [Content.outermost], by simp [Content.everywhere]⟩

theorem legible_function {tag : Tag} {inner after : Content}
    (h : tag.name = Utf8.encode "Function") :
    Legible (.element tag inner after) ↔
      (tag.Readable ∧ LineReads tag) ∧
      ((∀ t ∈ inner.children (Utf8.encode "Argument"), t.Readable) ∧
        ∀ t ∈ inner.everywhere (Utf8.encode "File"), t.Readable) ∧ Legible after := by
  have hFile : tag.name ≠ Utf8.encode "File" := by rw [h]; decide
  constructor
  · rintro ⟨hfunctions, hparameters, hfiles⟩
    rw [Content.forall_mem_outermost, if_pos h] at hfunctions hparameters
    rw [Content.forall_mem_everywhere] at hfiles
    exact ⟨hfunctions.1, ⟨hparameters.1, hfiles.2.1⟩, hfunctions.2, hparameters.2, hfiles.2.2⟩
  · rintro ⟨htag, ⟨harguments, hinner⟩, hfunctions, hparameters, hfiles⟩
    refine ⟨?_, ?_, ?_⟩
    · rw [Content.forall_mem_outermost, if_pos h]
      exact ⟨htag, hfunctions⟩
    · rw [Content.forall_mem_outermost, if_pos h]
      exact ⟨harguments, hparameters⟩
    · rw [Content.forall_mem_everywhere]
      exact ⟨fun h' => absurd h' hFile, hinner, hfiles⟩

theorem legible_other {tag : Tag} {inner after : Content}
    (h : tag.name ≠ Utf8.encode "Function") :
    Legible (.element tag inner after) ↔
      (tag.name = Utf8.encode "File" → tag.Readable) ∧ Legible inner ∧ Legible after := by
  constructor
  · rintro ⟨hfunctions, hparameters, hfiles⟩
    rw [Content.forall_mem_outermost, if_neg h] at hfunctions hparameters
    rw [Content.forall_mem_everywhere] at hfiles
    exact ⟨hfiles.1, ⟨hfunctions.1, hparameters.1, hfiles.2.1⟩, hfunctions.2, hparameters.2,
      hfiles.2.2⟩
  · rintro ⟨htag, hinner, hafter⟩
    refine ⟨?_, ?_, ?_⟩
    · rw [Content.forall_mem_outermost, if_neg h]
      exact ⟨hinner.functions, hafter.functions⟩
    · rw [Content.forall_mem_outermost, if_neg h]
      exact ⟨hinner.parameters, hafter.parameters⟩
    · rw [Content.forall_mem_everywhere]
      exact ⟨htag, hinner.files, hafter.files⟩

theorem legible_append (d e : Content) : Legible (d ++ e) ↔ Legible d ∧ Legible e := by
  constructor
  · rintro ⟨hfunctions, hparameters, hfiles⟩
    simp only [Content.outermost_append, Content.everywhere_append, List.forall_mem_append]
      at hfunctions hparameters hfiles
    exact ⟨⟨hfunctions.1, hparameters.1, hfiles.1⟩, hfunctions.2, hparameters.2, hfiles.2⟩
  · rintro ⟨hd, he⟩
    refine ⟨?_, ?_, ?_⟩
    · rw [Content.outermost_append, List.forall_mem_append]
      exact ⟨hd.functions, he.functions⟩
    · rw [Content.outermost_append, List.forall_mem_append]
      exact ⟨hd.parameters, he.parameters⟩
    · rw [Content.everywhere_append, List.forall_mem_append]
      exact ⟨hd.files, he.files⟩

end BindingCoverage.Dump
