import BindingCoverage.Proofs.Dump.Unread
import BindingCoverage.Proofs.Text.Decimal

/-!
# Where a function is said to be declared

The rule for the line and the file of a function, said without the code that follows it: `Consults`
is where the line is looked for, `IsLine` is what a line is, `RefersTo` is the file that is meant,
and `FileNamed` is its name in the dump.

* `line?_eq_some_iff`, `lineText?_eq_some_iff`, `placeOf_eq_some_iff`: what is read is that.
* `decode_places`: so the declarations of an accepted dump are placed by the rule, and a text that
  is consulted for a line and is none is refused.
-/

namespace BindingCoverage.Dump

open Xml

/-! ## The rule -/

/-- The text is a line: digits, with or without a plus sign in front of them. -/
def IsLine (text : String) (n : Nat) : Prop :=
  ∃ digits, (text.toList = digits ∨ text.toList = '+' :: digits) ∧ Text.Numeral digits n ∧
    n ≤ 4294967295

/-- The line is looked for in this text: that of the `line` attribute, and without that one what
comes after the last colon of the `location`. -/
inductive Consults (tag : Tag) : String → String → Prop where
  | line {text : String} : tag.text? "line" = some text → Consults tag "line" text
  | location {place text : String} : tag.text? "line" = none →
    tag.text? "location" = some (place ++ ":" ++ text) → ':' ∉ text.toList →
    Consults tag "location" text

/-- The reference to the file: the `file` attribute, and without that one, and without a line, what
comes before the last colon of the `location`. -/
inductive RefersTo (tag : Tag) : String → Prop where
  | file {ref : String} : tag.text? "file" = some ref → RefersTo tag ref
  | location {place text : String} : tag.text? "file" = none → tag.text? "line" = none →
    tag.text? "location" = some (place ++ ":" ++ text) → ':' ∉ text.toList → RefersTo tag place

/-- What a reference stands for: the name of the last file with that id, or the reference itself. -/
inductive FileNamed (files : List (String × String)) (ref : String) : String → Prop where
  | last {earlier later : List (String × String)} {name : String} :
    files = earlier ++ (ref, name) :: later → (∀ f ∈ later, f.1 ≠ ref) → FileNamed files ref name
  | none : (∀ f ∈ files, f.1 ≠ ref) → FileNamed files ref ref

/-- The line and the file of the declaration are those in the tag of its function. -/
structure PlacedBy (files : List (String × String)) (tag : Tag) (d : Declaration) : Prop where
  consulted : ∀ key text, Consults tag key text → ∃ n, IsLine text n
  line : ∀ n, d.line = some n ↔ ∃ key text, Consults tag key text ∧ IsLine text n.toNat
  file : ∀ name, d.file = some name ↔ ∃ ref, RefersTo tag ref ∧ FileNamed files ref name

/-! ## What is read -/

theorem line?_eq_some_iff {text : String} {n : UInt32} :
    line? text = some n ↔ IsLine text n.toNat := by
  unfold line? IsLine
  rw [Option.map_eq_some_iff]
  constructor
  · rintro ⟨m, hm, rfl⟩
    obtain ⟨digits, hdigits, hnumeral, hlt⟩ := Text.unsigned?_eq_some_iff.mp hm
    have hm : (UInt32.ofNat m).toNat = m := UInt32.toNat_ofNat_of_lt' hlt
    rw [hm]
    exact ⟨digits, hdigits, hnumeral, by omega⟩
  · rintro ⟨digits, hdigits, hnumeral, hle⟩
    refine ⟨n.toNat, Text.unsigned?_eq_some_iff.mpr ⟨digits, hdigits, hnumeral, by omega⟩, ?_⟩
    exact UInt32.ofNat_toNat

theorem line?_eq_none_iff {text : String} : line? text = none ↔ ¬ ∃ n, IsLine text n := by
  rw [Option.eq_none_iff_forall_ne_some]
  constructor
  · rintro h ⟨n, hn⟩
    have hle : n ≤ 4294967295 := hn.choose_spec.2.2
    refine h (UInt32.ofNat n) (line?_eq_some_iff.mpr ?_)
    rwa [UInt32.toNat_ofNat_of_lt' (by rw [UInt32.size]; omega)]
  · intro h n hn
    exact h ⟨n.toNat, line?_eq_some_iff.mp hn⟩

theorem lineText?_eq_some_iff {tag : Tag} {key text : String} :
    lineText? tag = some (key, text) ↔ Consults tag key text := by
  unfold lineText?
  cases hline : tag.text? "line" with
  | some line =>
    constructor
    · intro h
      cases h
      exact .line hline
    · rintro (h | ⟨h, -, -⟩)
      · rw [hline] at h
        cases h
        rfl
      · rw [hline] at h
        cases h
  | none =>
    constructor
    · intro h
      obtain ⟨⟨place, line⟩, hsplit, hparts⟩ := Option.map_eq_some_iff.mp h
      cases hparts
      obtain ⟨location, hlocation, hsplit⟩ := Option.bind_eq_some_iff.mp hsplit
      obtain ⟨rfl, hcolon⟩ := splitAtLastColon_eq_some_iff.mp hsplit
      exact .location hline hlocation hcolon
    · rintro (h | ⟨-, hlocation, hcolon⟩)
      · rw [hline] at h
        cases h
      · simp only [hlocation, Option.bind_some, splitAtLastColon_eq_some_iff.mpr ⟨rfl, hcolon⟩]
        rfl

theorem placeOf_line {tag : Tag} {n : UInt32} :
    (placeOf tag).2 = some n ↔ ∃ key text, Consults tag key text ∧ IsLine text n.toNat := by
  have hline : (placeOf tag).2 = (lineText? tag).bind fun parts => line? parts.2 := by
    unfold placeOf lineText?
    cases tag.text? "line" with
    | some text => rfl
    | none =>
      cases (tag.text? "location").bind splitAtLastColon with
      | none => rfl
      | some parts => rfl
  rw [hline, Option.bind_eq_some_iff]
  constructor
  · rintro ⟨⟨key, text⟩, hparts, hn⟩
    exact ⟨key, text, lineText?_eq_some_iff.mp hparts, line?_eq_some_iff.mp hn⟩
  · rintro ⟨key, text, hparts, hn⟩
    exact ⟨(key, text), lineText?_eq_some_iff.mpr hparts, line?_eq_some_iff.mpr hn⟩

theorem placeOf_file {tag : Tag} {ref : String} :
    (placeOf tag).1 = some ref ↔ RefersTo tag ref := by
  unfold placeOf
  constructor
  · intro h
    cases hline : tag.text? "line" with
    | some text =>
      rw [hline] at h
      exact .file h
    | none =>
      rw [hline] at h
      cases hsplit : (tag.text? "location").bind splitAtLastColon with
      | none =>
        rw [hsplit] at h
        exact .file h
      | some parts =>
        obtain ⟨place, text⟩ := parts
        rw [hsplit] at h
        obtain ⟨location, hlocation, hparts⟩ := Option.bind_eq_some_iff.mp hsplit
        obtain ⟨rfl, hcolon⟩ := splitAtLastColon_eq_some_iff.mp hparts
        obtain hfile | ⟨hfile, hplace⟩ := Option.or_eq_some_iff.mp h
        · exact .file hfile
        · cases hplace
          exact .location hfile hline hlocation hcolon
  · rintro (hfile | ⟨hfile, hline, hlocation, hcolon⟩)
    · rw [hfile]
      split
      · rfl
      · rfl
      · rfl
    · rw [hfile, hline, hlocation, Option.bind_some,
        splitAtLastColon_eq_some_iff.mpr ⟨rfl, hcolon⟩]
      rfl

/-! ## The names of files -/

theorem fileNamed_iff {files : List (String × String)} {ref name : String} :
    FileNamed files ref name ↔
      name = ((files.reverse.find? (·.1 == ref)).map Prod.snd).getD ref := by
  constructor
  · rintro (@⟨earlier, later, _, hfiles, hlater⟩ | hnone)
    · have hfind : files.reverse.find? (·.1 == ref) = some (ref, name) := by
        refine List.find?_eq_some_iff_append.mpr
          ⟨by simp, later.reverse, earlier.reverse, by simp [hfiles], fun g hg => ?_⟩
        simpa using hlater g (List.mem_reverse.mp hg)
      rw [hfind]
      rfl
    · have hfind : files.reverse.find? (·.1 == ref) = none := by
        refine List.find?_eq_none.mpr fun f hf => ?_
        simpa using hnone f (List.mem_reverse.mp hf)
      rw [hfind]
      rfl
  · rintro rfl
    cases hfind : files.reverse.find? (·.1 == ref) with
    | none =>
      refine .none fun f hf => ?_
      simpa using List.find?_eq_none.mp hfind f (List.mem_reverse.mpr hf)
    | some f =>
      obtain ⟨hid, later, earlier, hfiles, hlater⟩ := List.find?_eq_some_iff_append.mp hfind
      obtain rfl : f.1 = ref := by simpa using hid
      have hsplit : files = earlier.reverse ++ f :: later.reverse := by
        rw [← List.reverse_reverse files, hfiles]
        simp
      refine .last hsplit fun g hg => ?_
      simpa using hlater g (List.mem_reverse.mp hg)

theorem resolveFile_file {files : List (String × String)} {d : Declaration} {name : String} :
    (Collector.resolveFile files.reverse d).file = some name ↔
      ∃ ref, d.file = some ref ∧ FileNamed files ref name := by
  unfold Collector.resolveFile
  cases hfile : d.file with
  | none => simp [hfile]
  | some ref =>
    have hunique : (∃ ref', some ref = some ref' ∧ FileNamed files ref' name) ↔
        FileNamed files ref name := by simp
    rw [Option.bind_some, hunique, fileNamed_iff]
    cases files.reverse.find? (·.1 == ref) with
    | none => simp [hfile, eq_comm]
    | some f => simp [eq_comm]

theorem resolveFile_line (files : List (String × String)) (d : Declaration) :
    (Collector.resolveFile files d).line = d.line := by
  unfold Collector.resolveFile
  split
  · rfl
  · rfl

/-! ## Dumps -/

theorem exists_line_of_consults {tag : Tag} {key text : String} (h : LineReads tag)
    (hconsults : Consults tag key text) : ∃ n, IsLine text n := by
  have hline : (line? text).isSome := by
    obtain hline | ⟨hline, hlocation, hcolon⟩ := hconsults
    · exact h.line text hline
    · exact h.location hline _ text hlocation hcolon
  obtain ⟨n, hn⟩ := Option.isSome_iff_exists.mp hline
  exact ⟨n.toNat, line?_eq_some_iff.mp hn⟩

theorem resolved_placedBy {files : List (String × String)} {f : Tag × Content}
    (h : LineReads f.1) :
    PlacedBy files f.1 (Collector.resolveFile files.reverse (declared f.1 f.2)) where
  consulted := fun _ _ => exists_line_of_consults h
  line := by
    intro n
    rw [resolveFile_line]
    exact placeOf_line
  file := by
    intro name
    rw [resolveFile_file]
    show (∃ ref, (placeOf f.1).1 = some ref ∧ FileNamed files ref name) ↔ _
    simp only [placeOf_file]

theorem lineDefect_eq_some_iff {index : Nat} {tag : Tag} {e : Error} :
    lineDefect index tag = some e ↔
      ∃ key text, Consults tag key text ∧ (¬ ∃ n, IsLine text n) ∧
        e = .invalidLine index key text := by
  rw [lineDefect, Option.bind_eq_some_iff]
  constructor
  · rintro ⟨⟨key, text⟩, hparts, hline⟩
    dsimp only at hline
    split_ifs at hline with hn
    cases hline
    rw [Bool.not_eq_true, Option.isSome_eq_false_iff, Option.isNone_iff_eq_none] at hn
    exact ⟨key, text, lineText?_eq_some_iff.mp hparts, line?_eq_none_iff.mp hn, rfl⟩
  · rintro ⟨key, text, hconsults, hnone, rfl⟩
    refine ⟨(key, text), lineText?_eq_some_iff.mpr hconsults, ?_⟩
    simp only [line?_eq_none_iff.mpr hnone]
    rfl

theorem attributeDefect_ne_invalidLine {position index : Nat} {tag : Tag} {key text : String} :
    attributeDefect position tag ≠ some (.invalidLine index key text) := by
  intro h
  obtain ⟨e, he⟩ | ⟨e, he⟩ := attributeDefect_cases h
  · cases he
  · cases he

/-- The item is the tag of a function within no other one, which is not of a second root element;
its attributes can be read, and the text that is consulted for its line is no line. -/
structure RefusedLine (before : List Located) (i : Located) (index : Nat) (key text : String) :
    Prop where
  tag : ∃ tag, i.item.tag? = some tag ∧ OpensFunction (openAfter before) tag ∧ tag.Readable ∧
    Consults tag key text
  root : ¬ (openAfter before = [] ∧ before.any (·.item.tag?.isSome) = true)
  text : ¬ ∃ n, IsLine text n
  index : (functionTags before).length = index

theorem defect_eq_invalidLine_iff {before : List Located} {i : Located} {index : Nat}
    {key text : String} :
    defect before i = some (.invalidLine index key text) ↔ RefusedLine before i index key text := by
  rw [defect, Option.bind_eq_some_iff]
  constructor
  · rintro ⟨tag, htag, h⟩
    unfold tagDefect at h
    split_ifs at h with hroot hread hopens
    · cases h
    · rw [Option.or_eq_some_iff] at h
      obtain h | ⟨hattributes, h⟩ := h
      · exact absurd h attributeDefect_ne_invalidLine
      · obtain ⟨key, text, hconsults, hnone, he⟩ := lineDefect_eq_some_iff.mp h
        cases he
        exact ⟨⟨tag, htag, hopens, attributeDefect_eq_none_iff.mp hattributes, hconsults⟩, hroot,
          hnone, rfl⟩
    · rw [Option.or_none] at h
      exact absurd h attributeDefect_ne_invalidLine
  · rintro ⟨⟨tag, htag, hopens, hread, hconsults⟩, hroot, hnone, rfl⟩
    refine ⟨tag, htag, ?_⟩
    unfold tagDefect
    rw [if_neg hroot, if_pos (.inl hopens), if_pos hopens, attributeDefect_eq_none_iff.mpr hread]
    exact lineDefect_eq_some_iff.mpr ⟨key, text, hconsults, hnone, rfl⟩

theorem decode_eq_invalidLine_iff {feed : Feed} {index : Nat} {key text : String} :
    decode feed = .error (.invalidLine index key text) ↔
      ∃ before i after, (read feed).items = before ++ i :: after ∧ Sound before ∧
        RefusedLine before i index key text := by
  simp only [← defect_eq_invalidLine_iff]
  constructor
  · intro h
    obtain hdefect | ⟨f, -, he⟩ | hend := decode_error_cases h
    · exact hdefect
    · cases he
    · exact absurd trivial (not_settled_of_endDefect [] hend)
  · rintro ⟨before, i, after, hitems, hsound, hdefect⟩
    exact ofReading_of_defect (read_fits feed) hitems hsound hdefect

/-- In an accepted dump, the function that is kept of each name has the line and the file that its
tag says, and the names of files are those in the whole dump. A text that is consulted for the line
of a function and is no line is refused, unless there is a defect before it. -/
theorem decode_places (feed : Feed) :
    (∀ s, decode feed = .ok s →
      ∃ tag inner, (read feed).IsDocument tag inner ∧
        ∀ before f after,
          Content.outermost (Utf8.encode "Function") (.element tag inner .nothing) =
            before ++ f :: after →
          (∀ g ∈ before, nameOf g.1 ≠ nameOf f.1) →
          ∃ d, s.get? (nameOf f.1) = some d ∧
            PlacedBy (filesIn (.element tag inner .nothing)) f.1 d) ∧
    ∀ index key text, decode feed = .error (.invalidLine index key text) ↔
      ∃ before i after, (read feed).items = before ++ i :: after ∧ Sound before ∧
        RefusedLine before i index key text := by
  refine ⟨?_, fun index key text => decode_eq_invalidLine_iff⟩
  intro s h
  obtain ⟨tag, inner, hdocument, ⟨hlegible, -⟩, rfl⟩ := decode_eq_ok_iff.mp h
  refine ⟨tag, inner, hdocument, fun before f after hfunctions hfirst => ?_⟩
  have hf := hlegible.functions f (by rw [hfunctions]; simp)
  refine ⟨_, ?_, resolved_placedBy hf.2⟩
  unfold DeclarationSet.get?
  rw [DeclarationSet.find?_distinct, declarationsIn, functionsIn, hfunctions, List.map_append,
    List.map_append, List.map_cons, List.map_cons, List.find?_eq_some_iff_append]
  refine ⟨?_, _, _, rfl, ?_⟩
  · rw [Collector.resolveFile_name]
    exact beq_self_eq_true (nameOf f.1)
  · intro d hd
    simp only [List.map_map, List.mem_map, Function.comp_apply] at hd
    obtain ⟨g, hg, rfl⟩ := hd
    have hname : (declared g.1 g.2).name ≠ nameOf f.1 := hfirst g hg
    rw [Collector.resolveFile_name]
    simpa using hname

/-- Files that are listed later, one of them twice, and locations beside the other attributes. -/
theorem decode_places_later :
    ∃ (octets : List UInt8) (s : DeclarationSet),
      octets = Utf8.encode
        ("<r><Function name='f' location='f1:2:+12'/>" ++
        "<Function name='g' file='f2' location=':0'/>" ++
        "<Function name='h' location='f1:x' line='4294967295'>" ++
        "<File id='f2' name='f3'/></Function>" ++
        "<File id='f1:2' name='a'/><File id='f1:2' name='b.h'/><File id='f3' name='c'/></r>") ∧
      s = ⟨[{ name := "f", file := some "b.h", line := some 12 },
        { name := "g", file := some "f3", line := some 0 },
        { name := "h", line := some 4294967295 }]⟩ ∧
      decode (.whole octets) = .ok s ∧
      ∃ tag inner, (read (.whole octets)).IsDocument tag inner ∧
        ∀ before f after,
          Content.outermost (Utf8.encode "Function") (.element tag inner .nothing) =
            before ++ f :: after →
          (∀ g ∈ before, nameOf g.1 ≠ nameOf f.1) →
          ∃ d, s.get? (nameOf f.1) = some d ∧
            PlacedBy (filesIn (.element tag inner .nothing)) f.1 d := by
  refine ⟨_, _, rfl, rfl, ?decoded, (decode_places _).1 _ ?decoded⟩
  decide +kernel

end BindingCoverage.Dump
