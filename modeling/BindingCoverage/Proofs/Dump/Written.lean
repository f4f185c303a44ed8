import BindingCoverage.Proofs.Dump.Document
import BindingCoverage.Proofs.Text.Decimal
import BindingCoverage.Proofs.Xml.Markup

/-!
# Writing dumps

A dump is written from a list of entries, which are declarations and names of files in any order.

* `declared_written`: the element that is written for a declaration declares it.
* `decodeOctets_write`: a dump that is written decodes to its declarations.
-/

namespace BindingCoverage.Dump

open Xml

/-- What a dump is written from: a declaration whose file is a reference, or the name of a file. -/
inductive Entry where
  | declaration (d : Declaration)
  | file (id name : String)
  deriving DecidableEq, Repr

namespace Entry

def declaration? : Entry → Option Declaration
  | declaration d => some d
  | file _ _ => none

def file? : Entry → Option (String × String)
  | declaration _ => none
  | file id name => some (id, name)

end Entry

def declarationsOf (entries : List Entry) : List Declaration :=
  entries.filterMap Entry.declaration?

def tableOf (entries : List Entry) : List (String × String) := entries.filterMap Entry.file?

/-- An attribute that is written if there is a text for it. -/
def optionalAttribute (key : String) (text : Option String) : List (String × String) :=
  (text.map (key, ·)).toList

/-- An attribute that is written if it holds. -/
def flagAttribute (key : String) (flag : Bool) : List (String × String) :=
  optionalAttribute key (if flag then some "1" else none)

def parameterAttributes (p : Parameter) : List (String × String) :=
  optionalAttribute "name" p.name ++ optionalAttribute "type" p.typeId

def declarationAttributes (d : Declaration) : List (String × String) :=
  optionalAttribute "name" (some d.name) ++ optionalAttribute "id" d.id ++
    optionalAttribute "returns" d.returns ++ optionalAttribute "file" d.file ++
    optionalAttribute "line" (d.line.map fun n => toString n.toNat) ++
    flagAttribute "extern" d.isExtern ++ flagAttribute "inline" d.isInline ++
    flagAttribute "static" d.isStatic

def fileAttributes (id name : String) : List (String × String) := [("id", id), ("name", name)]

def parametersMarkup (variadic : Bool) : List Parameter → Markup
  | [] => if variadic then .element "Ellipsis" [] .nothing .nothing else .nothing
  | p :: rest =>
    .element "Argument" (parameterAttributes p) .nothing (parametersMarkup variadic rest)

def entriesMarkup : List Entry → Markup
  | [] => .nothing
  | .declaration d :: rest =>
    .element "Function" (declarationAttributes d) (parametersMarkup d.variadic d.parameters)
      (entriesMarkup rest)
  | .file id name :: rest =>
    .element "File" (fileAttributes id name) .nothing (entriesMarkup rest)

/-- The entries in a root element. -/
def dumpMarkup (root : String) (entries : List Entry) : Markup :=
  .element root [] (entriesMarkup entries) .nothing

def writeDump (root : String) (entries : List Entry) : String := (dumpMarkup root entries).write

/-- The declaration with the name of its file in place of the reference, if the table has it. -/
def withFile (table : List (String × String)) (d : Declaration) : Declaration :=
  { d with file := d.file.map fun id => (table.lookup id).getD id }

/-! ## Attributes that are written -/

theorem lookup_optionalAttribute (key key' : String) (text : Option String) :
    (optionalAttribute key' text).lookup key = if key = key' then text else none := by
  cases text with
  | none => simp [optionalAttribute]
  | some text => simp [optionalAttribute, List.lookup_cons]; split <;> simp_all

theorem keys_optionalAttribute (key : String) (text : Option String) :
    ((optionalAttribute key text).map Prod.fst).Sublist [key] := by
  cases text with
  | none => exact List.nil_sublist _
  | some text => exact List.Sublist.refl _

theorem word_function : Word "Function" := word_of_isWord rfl

theorem word_argument : Word "Argument" := word_of_isWord rfl

theorem word_ellipsis : Word "Ellipsis" := word_of_isWord rfl

theorem word_file : Word "File" := word_of_isWord rfl

/-- Attributes can be written whose keys are among words that do not repeat. -/
theorem writable_of_sublist {name : String} {attributes : List (String × String)}
    (keys : List String) (h : (attributes.map Prod.fst).Sublist keys) (hname : Word name)
    (hkeys : keys.all isWord = true) (hdistinct : keys.Nodup) : Writable name attributes where
  name := hname
  keys := fun _ ha =>
    word_of_isWord (List.all_eq_true.mp hkeys _ (h.subset (List.mem_map_of_mem ha)))
  distinct := hdistinct.sublist h

theorem parameter_writable (p : Parameter) : Writable "Argument" (parameterAttributes p) := by
  refine writable_of_sublist ["name", "type"] ?_ word_argument rfl (by decide)
  rw [parameterAttributes, List.map_append]
  exact (keys_optionalAttribute _ _).append (keys_optionalAttribute _ _)

theorem declaration_writable (d : Declaration) :
    Writable "Function" (declarationAttributes d) := by
  refine writable_of_sublist
    ["name", "id", "returns", "file", "line", "extern", "inline", "static"] ?_ word_function rfl
    (by decide)
  simp only [declarationAttributes, flagAttribute, List.map_append]
  have hname := keys_optionalAttribute "name" (some d.name)
  have hid := hname.append (keys_optionalAttribute "id" d.id)
  have hreturns := hid.append (keys_optionalAttribute "returns" d.returns)
  have hfile := hreturns.append (keys_optionalAttribute "file" d.file)
  have hline := hfile.append (keys_optionalAttribute "line" (d.line.map fun n => toString n.toNat))
  exact ((hline.append (keys_optionalAttribute _ _)).append (keys_optionalAttribute _ _)).append
    (keys_optionalAttribute _ _)

theorem file_writable (id name : String) : Writable "File" (fileAttributes id name) :=
  writable_of_sublist ["id", "name"] (List.Sublist.refl _) word_file rfl (by decide)

theorem bare_writable {name : String} (h : Word name) : Writable name [] :=
  writable_of_sublist [] (List.Sublist.refl _) h rfl List.nodup_nil

theorem parametersMarkup_proper (variadic : Bool) (parameters : List Parameter) :
    (parametersMarkup variadic parameters).Proper := by
  induction parameters with
  | nil =>
    unfold parametersMarkup
    split
    · exact ⟨bare_writable word_ellipsis, trivial, trivial⟩
    · trivial
  | cons p rest ih => exact ⟨parameter_writable p, trivial, ih⟩

theorem entriesMarkup_proper (entries : List Entry) : (entriesMarkup entries).Proper := by
  induction entries with
  | nil => trivial
  | cons e rest ih =>
    cases e with
    | declaration d => exact ⟨declaration_writable d, parametersMarkup_proper _ _, ih⟩
    | file id name => exact ⟨file_writable id name, trivial, ih⟩

/-! ## What the written elements say -/

theorem parameterOf_written (p : Parameter) :
    parameterOf (written "Argument" (parameterAttributes p)) = p := by
  simp only [parameterOf, written_text? (parameter_writable p)]
  simp [parameterAttributes, List.lookup_append, lookup_optionalAttribute]

theorem fileOf_written (id name : String) :
    fileOf (written "File" (fileAttributes id name)) = some (id, name) := by
  simp only [fileOf, written_text? (file_writable id name)]
  simp [fileAttributes, List.lookup_cons]

theorem line?_toString (n : UInt32) : line? (toString n.toNat) = some n := by
  rw [line?, Text.unsigned?_toString n.toNat_lt, Option.map_some, UInt32.ofNat_toNat]

section

variable (d : Declaration)

theorem text?_line : (written "Function" (declarationAttributes d)).text? "line" =
    d.line.map fun n => toString n.toNat := by
  rw [written_text? (declaration_writable d)]
  simp [declarationAttributes, flagAttribute, List.lookup_append, lookup_optionalAttribute]

theorem text?_location :
    (written "Function" (declarationAttributes d)).text? "location" = none := by
  rw [written_text? (declaration_writable d)]
  simp [declarationAttributes, flagAttribute, List.lookup_append, lookup_optionalAttribute]

theorem placeOf_written :
    placeOf (written "Function" (declarationAttributes d)) = (d.file, d.line) := by
  have hfile : (written "Function" (declarationAttributes d)).text? "file" = d.file := by
    rw [written_text? (declaration_writable d)]
    simp [declarationAttributes, flagAttribute, List.lookup_append, lookup_optionalAttribute]
  unfold placeOf
  rw [text?_line, text?_location, hfile]
  cases hline : d.line with
  | none => rfl
  | some n =>
    simp only [Option.map_some, line?_toString]

theorem lineReads_written : LineReads (written "Function" (declarationAttributes d)) where
  line := by
    intro text htext
    rw [text?_line] at htext
    obtain ⟨n, -, rfl⟩ := Option.map_eq_some_iff.mp htext
    rw [line?_toString]
    rfl
  location := by
    intro _ place text hlocation
    rw [text?_location] at hlocation
    cases hlocation

end

theorem children_argument (variadic : Bool) (parameters : List Parameter) :
    (parametersMarkup variadic parameters).content.children (Utf8.encode "Argument") =
      parameters.map fun p => written "Argument" (parameterAttributes p) := by
  induction parameters with
  | nil =>
    cases variadic with
    | false => rfl
    | true =>
      change (Markup.element "Ellipsis" [] .nothing .nothing).content.children _ = []
      rw [Markup.children_content _ _ _ _ word_ellipsis, if_neg (by decide)]
      rfl
  | cons p rest ih =>
    rw [parametersMarkup, Markup.children_content _ _ _ _ word_argument, if_pos rfl, ih]
    rfl

theorem children_ellipsis (variadic : Bool) (parameters : List Parameter) :
    ((parametersMarkup variadic parameters).content.children (Utf8.encode "Ellipsis")).isEmpty =
      !variadic := by
  induction parameters with
  | nil =>
    cases variadic with
    | false => rfl
    | true =>
      change ((Markup.element "Ellipsis" [] .nothing .nothing).content.children _).isEmpty = false
      rw [Markup.children_content _ _ _ _ word_ellipsis, if_pos rfl]
      rfl
  | cons p rest ih =>
    rw [parametersMarkup, Markup.children_content _ _ _ _ word_argument, if_neg (by decide)]
    exact ih

theorem everywhere_file (variadic : Bool) (parameters : List Parameter) :
    (parametersMarkup variadic parameters).content.everywhere (Utf8.encode "File") = [] := by
  induction parameters with
  | nil =>
    cases variadic with
    | false => rfl
    | true =>
      change (Markup.element "Ellipsis" [] .nothing .nothing).content.everywhere _ = []
      rw [Markup.everywhere_content _ _ _ _ word_ellipsis, if_neg (by decide)]
      rfl
  | cons p rest ih =>
    rw [parametersMarkup, Markup.everywhere_content _ _ _ _ word_argument, if_neg (by decide), ih]
    rfl

/-- A flag is true when its attribute is written. -/
theorem flag_eq (flag : Bool) :
    ((if flag = true then some "1" else none : Option String) == some "1") = flag := by
  cases flag with
  | false => rfl
  | true => rfl

theorem declared_written (d : Declaration) :
    declared (written "Function" (declarationAttributes d))
      (parametersMarkup d.variadic d.parameters).content = d := by
  have hparameters : (d.parameters.map fun p => written "Argument" (parameterAttributes p)).map
      parameterOf = d.parameters := by
    rw [List.map_map]
    exact List.map_id'' parameterOf_written _
  unfold declared
  simp only [children_argument, children_ellipsis, hparameters, placeOf_written, Bool.not_not,
    written_text? (declaration_writable d)]
  simp [declarationAttributes, flagAttribute, List.lookup_append, lookup_optionalAttribute, flag_eq]

/-! ## The elements of a written dump -/

theorem outermost_function (entries : List Entry) :
    (entriesMarkup entries).content.outermost (Utf8.encode "Function") =
      (declarationsOf entries).map fun d =>
        (written "Function" (declarationAttributes d),
          (parametersMarkup d.variadic d.parameters).content) := by
  induction entries with
  | nil => rfl
  | cons e rest ih =>
    cases e with
    | declaration d =>
      rw [entriesMarkup, Markup.outermost_content _ _ _ _ word_function, if_pos rfl, ih]
      rfl
    | file id name =>
      rw [entriesMarkup, Markup.outermost_content _ _ _ _ word_file, if_neg (by decide), ih]
      rfl

theorem everywhere_file_entries (entries : List Entry) :
    (entriesMarkup entries).content.everywhere (Utf8.encode "File") =
      (tableOf entries).map fun f => written "File" (fileAttributes f.1 f.2) := by
  induction entries with
  | nil => rfl
  | cons e rest ih =>
    cases e with
    | declaration d =>
      rw [entriesMarkup, Markup.everywhere_content _ _ _ _ word_function, if_neg (by decide),
        everywhere_file, ih]
      rfl
    | file id name =>
      rw [entriesMarkup, Markup.everywhere_content _ _ _ _ word_file, if_pos rfl, ih]
      rfl

theorem outermost_dump {root : String} (hroot : Word root) (hfunction : root ≠ "Function")
    (entries : List Entry) :
    (dumpMarkup root entries).content.outermost (Utf8.encode "Function") =
      (declarationsOf entries).map fun d =>
        (written "Function" (declarationAttributes d),
          (parametersMarkup d.variadic d.parameters).content) := by
  rw [dumpMarkup, Markup.outermost_content _ _ _ _ hroot, if_neg hfunction, outermost_function]
  exact List.append_nil _

/-- A root element may have the name of a file element; then it has no id and no name. -/
theorem everywhere_dump {root : String} (hroot : Word root) (entries : List Entry) :
    (dumpMarkup root entries).content.everywhere (Utf8.encode "File") =
      (if root = "File" then [written root []] else []) ++
        (tableOf entries).map fun f => written "File" (fileAttributes f.1 f.2) := by
  rw [dumpMarkup, Markup.everywhere_content _ _ _ _ hroot, everywhere_file_entries]
  exact List.append_nil _

theorem functionsIn_dump {root : String} (hroot : Word root) (hfunction : root ≠ "Function")
    (entries : List Entry) :
    functionsIn (dumpMarkup root entries).content = declarationsOf entries := by
  rw [functionsIn, outermost_dump hroot hfunction, List.map_map]
  exact List.map_id'' declared_written _

theorem filesIn_dump {root : String} (hroot : Word root) (entries : List Entry) :
    filesIn (dumpMarkup root entries).content = tableOf entries := by
  have hbare : fileOf (written root []) = none := by
    rw [fileOf, written_text? (bare_writable hroot)]
    rfl
  have heach : (fileOf ∘ fun f : String × String => written "File" (fileAttributes f.1 f.2)) =
      some := by
    funext f
    rw [Function.comp_apply, fileOf_written]
  rw [filesIn, everywhere_dump hroot, List.filterMap_append, List.filterMap_map, heach,
    List.filterMap_some]
  split
  · rw [List.filterMap_cons, hbare]
    rfl
  · rfl

theorem legible_dump {root : String} (hroot : Word root) (hfunction : root ≠ "Function")
    (entries : List Entry) : Legible (dumpMarkup root entries).content where
  functions := by
    rw [outermost_dump hroot hfunction, List.forall_mem_map]
    intro d _
    exact ⟨written_readable (declaration_writable d), lineReads_written d⟩
  parameters := by
    rw [outermost_dump hroot hfunction, List.forall_mem_map]
    intro d _
    rw [children_argument, List.forall_mem_map]
    intro p _
    exact written_readable (parameter_writable p)
  files := by
    rw [everywhere_dump hroot]
    intro tag htag
    rcases List.mem_append.mp htag with htag | htag
    · split at htag
      · rw [List.mem_singleton.mp htag]
        exact written_readable (bare_writable hroot)
      · cases htag
    · obtain ⟨f, -, rfl⟩ := List.mem_map.mp htag
      exact written_readable (file_writable f.1 f.2)

/-! ## The names of files -/

theorem find?_reverse {table : List (String × String)} (h : (table.map Prod.fst).Nodup)
    (id : String) : (table.reverse.find? (·.1 == id)).map Prod.snd = table.lookup id := by
  induction table with
  | nil => rfl
  | cons f rest ih =>
    rw [List.map_cons, List.nodup_cons] at h
    rw [List.reverse_cons, List.find?_append, List.lookup_cons]
    by_cases hid : id = f.1
    · have hnone : rest.reverse.find? (·.1 == id) = none := by
        rw [List.find?_eq_none]
        intro g hg heq
        rw [beq_iff_eq] at heq
        exact h.1 (List.mem_map.mpr ⟨g, List.mem_reverse.mp hg, heq.trans hid⟩)
      rw [hnone]
      simp [hid]
    · have hother : (f.1 == id) = false := beq_eq_false_iff_ne.mpr fun heq => hid heq.symm
      have hother' : (id == f.1) = false := beq_eq_false_iff_ne.mpr hid
      simp only [List.find?_cons, hother, List.find?_nil, Option.or_none, hother']
      exact ih h.2

theorem resolveFile_reverse {table : List (String × String)} (h : (table.map Prod.fst).Nodup)
    (d : Declaration) : Collector.resolveFile table.reverse d = withFile table d := by
  unfold Collector.resolveFile withFile
  cases hfile : d.file with
  | none =>
    simp only [Option.bind_none, Option.map_none]
    rw [← hfile]
  | some id =>
    rw [Option.bind_some, Option.map_some, ← find?_reverse h]
    cases table.reverse.find? (·.1 == id) with
    | none =>
      simp only [Option.map_none, Option.getD_none]
      rw [← hfile]
    | some f => rfl

/-- Decoding a dump that is written brings the declarations that it was written from, without the
later repetitions of a name and with the names of their files. -/
theorem decodeOctets_write {root : String} {entries : List Entry} (hroot : Word root)
    (hfunction : root ≠ "Function")
    (hnames : ∀ d ∈ declarationsOf entries, Text.isBlankText d.name = false)
    (hids : ((tableOf entries).map Prod.fst).Nodup) :
    decodeOctets (Utf8.encode (writeDump root entries)) =
      .ok ⟨DeclarationSet.distinct
        ((declarationsOf entries).map (withFile (tableOf entries)))⟩ := by
  have hdocument : (read (.whole (Utf8.encode (writeDump root entries)))).IsDocument
      (written root []) (entriesMarkup entries).content :=
    isDocument_write ⟨bare_writable hroot, entriesMarkup_proper entries, trivial⟩
  have hdeclarations : declarationsIn (dumpMarkup root entries).content =
      (declarationsOf entries).map (withFile (tableOf entries)) := by
    rw [declarationsIn, functionsIn_dump hroot hfunction, filesIn_dump hroot]
    exact List.map_congr_left fun d _ => resolveFile_reverse hids d
  have hnamed : Named (dumpMarkup root entries).content := by
    rw [named_iff, hdeclarations]
    intro e he
    obtain ⟨d, hd, rfl⟩ := List.mem_map.mp he
    exact hnames d hd
  have hdecode := (decode_brings hdocument).eq_ok ⟨legible_dump hroot hfunction entries, hnamed⟩
  rw [← hdeclarations]
  exact hdecode

/-- Texts with marks of the syntax, a name that comes twice, and files that are listed before and
after they are referred to. -/
theorem decodeOctets_write_marks :
    ∃ entries : List Entry,
      entries = [
        .declaration {
          name := "a\"><b/"
          id := some "&lt;"
          parameters := [{ name := some "\n" }, { typeId := some "é/" }]
          variadic := true
          isStatic := true
          file := some "f2"
          line := some 4294967295 },
        .file "f1" "a'b.h",
        .declaration { name := "c", file := some "f3", line := some 0 },
        .file "f2" "<&>",
        .declaration { name := "a\"><b/", file := some "f1" }] ∧
      Word "CastXML" ∧ "CastXML" ≠ "Function" ∧
      (∀ d ∈ declarationsOf entries, Text.isBlankText d.name = false) ∧
      ((tableOf entries).map Prod.fst).Nodup ∧
      decodeOctets (Utf8.encode (writeDump "CastXML" entries)) = .ok ⟨[
        { name := "a\"><b/"
          id := some "&lt;"
          parameters := [{ name := some "\n" }, { typeId := some "é/" }]
          variadic := true
          isStatic := true
          file := some "<&>"
          line := some 4294967295 },
        { name := "c", file := some "f3", line := some 0 }]⟩ := by
  refine ⟨_, rfl, ?word, ?function, ?names, ?ids,
    (decodeOctets_write ?word ?function ?names ?ids).trans ?resolved⟩
  case word => exact word_of_isWord rfl
  case function => decide
  case names => decide +kernel
  case ids => decide
  case resolved => decide +kernel

example :
    writeDump "r" [.file "1" "a&b", .declaration { name := "f\"", parameters := [{}] }] =
      "<r><File id=\"1\" name=\"a&amp;b\"/>" ++
        "<Function name=\"f&quot;\"><Argument/></Function></r>" := by
  decide +kernel

end BindingCoverage.Dump
