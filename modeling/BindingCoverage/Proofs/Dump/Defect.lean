import BindingCoverage.Proofs.Dump.Document
import BindingCoverage.Proofs.Dump.Position
import BindingCoverage.Proofs.Dump.Progress

/-!
# The first defect

`defect before i` is what is wrong with an item, given the items before it; `endDefect` is what is
wrong with a document all of whose items are sound.

* `take_failure`: the collector refuses an item for its defect, and for nothing else.
* `decode_error_cases`: every error is the first defect, the fault of the reading, or about the end.
* `decode_first_defect`: which of them it is, and that more octets do not change the first two.
-/

namespace BindingCoverage.Dump

open Xml

/-- The attributes of an element with this tag are looked at. -/
def IsRead (names : List (List UInt8)) (tag : Tag) : Prop :=
  OpensFunction names tag ∨
    tag.name = Utf8.encode "Argument" ∧ DirectlyInFunction names ∨ tag.name = Utf8.encode "File"

instance (names : List (List UInt8)) (tag : Tag) : Decidable (IsRead names tag) :=
  inferInstanceAs (Decidable (_ ∨ _ ∧ _ ∨ _))

/-! ## Tags -/

/-- What is wrong with the first attribute that cannot be read, from left to right. -/
def attributeDefect (position : Nat) (tag : Tag) : Option Error :=
  ((tag.attributes.read.findSome? fun a => failure? a.text).map (.markup position)).or
    (tag.attributes.error.map (.attributes position))

/-- The attribute in which the line of a function is, with the text there. -/
def lineText? (tag : Tag) : Option (String × String) :=
  match tag.text? "line" with
  | some text => some ("line", text)
  | none => ((tag.text? "location").bind splitAtLastColon).map fun parts => ("location", parts.2)

def lineDefect (index : Nat) (tag : Tag) : Option Error :=
  (lineText? tag).bind fun (key, text) =>
    if (line? text).isSome then none else some (.invalidLine index key text)

/-- What is wrong with a tag: that it is of a second root element, then that an attribute cannot be
read, then that there is no number where the line of a function is. -/
def tagDefect (before : List Located) (position : Nat) (tag : Tag) : Option Error :=
  if openAfter before = [] ∧ before.any (·.item.tag?.isSome) then
    some (.secondRoot (Utf8.lossy tag.name) position)
  else if IsRead (openAfter before) tag then
    (attributeDefect position tag).or
      (if OpensFunction (openAfter before) tag then lineDefect (functionTags before).length tag
        else none)
  else none

/-- What is wrong with an item. -/
def defect (before : List Located) (i : Located) : Option Error :=
  i.item.tag?.bind (tagDefect before i.position)

/-- Nothing is wrong with any of the items. -/
def Sound (items : List Located) : Prop := Along (fun before i => defect before i = none) items

/-- The errors that an item can have. -/
def Error.OfItem : Error → Prop
  | .markup _ _ | .attributes _ _ | .secondRoot _ _ | .invalidLine _ _ _ => True
  | _ => False

theorem attributeDefect_cases {position : Nat} {tag : Tag} {e : Error}
    (h : attributeDefect position tag = some e) :
    (∃ e', e = .markup position e') ∨ ∃ e', e = .attributes position e' := by
  rw [attributeDefect, Option.or_eq_some_iff] at h
  rcases h with h | ⟨-, h⟩
  · obtain ⟨e', -, rfl⟩ := Option.map_eq_some_iff.mp h
    exact .inl ⟨e', rfl⟩
  · obtain ⟨e', -, rfl⟩ := Option.map_eq_some_iff.mp h
    exact .inr ⟨e', rfl⟩

theorem attributeDefect_ofItem {position : Nat} {tag : Tag} {e : Error}
    (h : attributeDefect position tag = some e) : e.OfItem := by
  obtain ⟨e', rfl⟩ | ⟨e', rfl⟩ := attributeDefect_cases h
  · trivial
  · trivial

theorem lineDefect_ofItem {index : Nat} {tag : Tag} {e : Error}
    (h : lineDefect index tag = some e) : e.OfItem := by
  obtain ⟨⟨key, text⟩, -, h⟩ := Option.bind_eq_some_iff.mp h
  dsimp only at h
  split_ifs at h
  cases h
  trivial

theorem defect_ofItem {before : List Located} {i : Located} {e : Error}
    (h : defect before i = some e) : e.OfItem := by
  obtain ⟨tag, -, h⟩ := Option.bind_eq_some_iff.mp h
  unfold tagDefect at h
  split_ifs at h
  · cases h
    trivial
  · rcases Option.or_eq_some_iff.mp h with h | ⟨-, h⟩
    · exact attributeDefect_ofItem h
    · exact lineDefect_ofItem h
  · rw [Option.or_none] at h
    exact attributeDefect_ofItem h

theorem attributesOf_failure (position : Nat) (tag : Tag) :
    failure? (attributesOf position tag) = attributeDefect position tag := by
  have htexts : failure? (tag.attributes.read.mapM fun a => do
      return (a.key, ← a.text.mapError (Error.markup position))) =
        (tag.attributes.read.findSome? fun a => failure? a.text).map (.markup position) := by
    rw [failure?_mapM]
    simp only [failure?_map, failure?_mapError]
    exact List.map_findSome?.symm
  refine failure?_bind htexts fun texts _ => ?_
  cases tag.attributes.error with
  | none => rfl
  | some e => rfl

theorem attributeDefect_eq_none_iff {position : Nat} {tag : Tag} :
    attributeDefect position tag = none ↔ tag.Readable := by
  rw [← attributesOf_failure, failure?_eq_none_iff]
  constructor
  · rintro ⟨texts, htexts⟩
    exact ((attributesOf_brings position tag texts).mp htexts).1
  · intro hread
    exact ⟨_, (attributesOf_brings position tag).eq_ok hread⟩

theorem locate_failure (index : Nat) (tag : Tag) :
    failure? (locate index (tag.text? "file") (tag.text? "line") (tag.text? "location")) =
      lineDefect index tag := by
  unfold locate lineDefect lineText?
  cases tag.text? "line" with
  | some text =>
    cases hn : line? text with
    | none => simp [hn]
    | some n => simp [hn]
  | none =>
    cases (tag.text? "location").bind splitAtLastColon with
    | none => rfl
    | some parts =>
      obtain ⟨place, text⟩ := parts
      cases hn : line? text with
      | none => simp [hn]
      | some n => simp [hn]

theorem declarationOf_failure (index position : Nat) (tag : Tag) :
    failure? (declarationOf index position tag) =
      (attributeDefect position tag).or (lineDefect index tag) := by
  refine failure?_bind (attributesOf_failure position tag) fun texts htexts => ?_
  obtain ⟨hread, rfl⟩ := (attributesOf_brings position tag texts).mp htexts
  simp only [textOf?_texts hread]
  exact (failure?_map _ _).trans (locate_failure index tag)

namespace Collector

variable {c : Collector} {before : List Located}

theorem Follows.inFunction (h : Follows c before) :
    c.inFunction = none ↔ ¬ DirectlyInFunction (openAfter before) := by
  unfold Collector.inFunction
  cases hcurrent : c.current with
  | none =>
    have hnone := h.current_eq_none_iff.mp hcurrent
    refine iff_of_true rfl fun hdirect => hnone ?_
    exact List.mem_of_head? hdirect.1
  | some function =>
    obtain ⟨k, f⟩ := function
    have hdepth : functionDepth (openAfter before) = some k := by
      rw [← h.depth, hcurrent]
      rfl
    rw [directlyInFunction_iff hdepth, ← h.length]
    dsimp only
    split
    · simp_all
    · simp_all

theorem enterFunction_failure (c : Collector) (position : Nat) (tag : Tag) (isEmpty : Bool) :
    failure? (c.enterFunction position tag isEmpty) =
      if c.current = none then
        (attributeDefect position tag).or (lineDefect c.complete.length tag)
      else none := by
  unfold enterFunction
  cases c.current with
  | some function => rfl
  | none =>
    rw [if_pos rfl, ← declarationOf_failure]
    cases isEmpty with
    | true => exact failure?_map _ _
    | false => exact failure?_map _ _

theorem enterArgument_failure (c : Collector) (position : Nat) (tag : Tag) :
    failure? (c.enterArgument position tag) =
      if c.inFunction = none then none else attributeDefect position tag := by
  unfold enterArgument
  cases c.inFunction with
  | none => rfl
  | some d => exact (failure?_map _ _).trans (attributesOf_failure position tag)

theorem enterFile_failure (c : Collector) (position : Nat) (tag : Tag) :
    failure? (c.enterFile position tag) = attributeDefect position tag := by
  have hattributes : failure? (c.enterFile position tag) =
      (attributeDefect position tag).or none := by
    refine failure?_bind (attributesOf_failure position tag) fun texts _ => ?_
    dsimp only
    split
    · rfl
    · rfl
  rw [hattributes, Option.or_none]

/-- An element is refused for its attributes where they are looked at. -/
theorem enterElement_failure {c : Collector} {names : List (List UInt8)} {index : Nat}
    (hcurrent : c.current = none ↔ Utf8.encode "Function" ∉ names)
    (hplace : c.inFunction = none ↔ ¬ DirectlyInFunction names)
    (hindex : c.current = none → c.complete.length = index) (position : Nat) (tag : Tag)
    (isEmpty : Bool) :
    failure? (c.enterElement position tag isEmpty) =
      if IsRead names tag then
        (attributeDefect position tag).or
          (if OpensFunction names tag then lineDefect index tag else none)
      else none := by
  unfold enterElement
  -- A tag has one of the names that count, so `IsRead` is about that name only.
  by_cases hFunction : tag.name = Utf8.encode "Function"
  · have hArgument : tag.name ≠ Utf8.encode "Argument" := by rw [hFunction]; decide
    have hFile : tag.name ≠ Utf8.encode "File" := by rw [hFunction]; decide
    have hopens : OpensFunction names tag ↔ c.current = none := by
      rw [hcurrent]
      exact and_iff_right hFunction
    have hread : IsRead names tag ↔ c.current = none := by
      simp [IsRead, hopens, hArgument, hFile]
    rw [if_pos hFunction, enterFunction_failure]
    by_cases hnone : c.current = none
    · rw [if_pos hnone, if_pos (hread.mpr hnone), if_pos (hopens.mpr hnone), hindex hnone]
    · rw [if_neg hnone, if_neg (mt hread.mp hnone)]
  · have hopens : ¬ OpensFunction names tag := fun hopens => hFunction hopens.1
    rw [if_neg hFunction, if_neg hopens, Option.or_none]
    by_cases hArgument : tag.name = Utf8.encode "Argument"
    · have hFile : Utf8.encode "Argument" ≠ Utf8.encode "File" := by decide
      have hread : IsRead names tag ↔ ¬ c.inFunction = none := by
        simp [IsRead, hopens, hArgument, hFile, hplace]
      rw [if_pos hArgument, enterArgument_failure]
      by_cases hnone : c.inFunction = none
      · rw [if_pos hnone, if_neg fun h => hread.mp h hnone]
      · rw [if_neg hnone, if_pos (hread.mpr hnone)]
    · have hread : IsRead names tag ↔ tag.name = Utf8.encode "File" := by
        simp [IsRead, hopens, hArgument]
      rw [if_neg hArgument]
      by_cases hFile : tag.name = Utf8.encode "File"
      · have hEllipsis : tag.name ≠ Utf8.encode "Ellipsis" := by rw [hFile]; decide
        rw [if_neg hEllipsis, if_pos hFile, if_pos (hread.mpr hFile), enterFile_failure]
      · rw [if_neg hFile, if_neg (mt hread.mp hFile)]
        split
        · rfl
        · rfl

theorem enter_failure (h : Follows c before) (position : Nat) (tag : Tag) (isEmpty : Bool) :
    failure? (c.enter position tag isEmpty) = tagDefect before position tag := by
  have hguard : (c.names.isEmpty && c.sawRoot) = true ↔
      openAfter before = [] ∧ before.any (·.item.tag?.isSome) = true := by
    rw [Bool.and_eq_true, h.names, h.root, List.isEmpty_iff, List.map_eq_nil_iff]
  unfold enter tagDefect
  by_cases hroot : openAfter before = [] ∧ before.any (·.item.tag?.isSome) = true
  · rw [if_pos (hguard.mpr hroot), if_pos hroot]
    rfl
  · rw [if_neg (mt hguard.mp hroot), if_neg hroot]
    exact enterElement_failure (c := { c with sawRoot := true }) h.current_eq_none_iff h.inFunction
      h.index position tag isEmpty

theorem take_failure {i : Located} (h : Follows c before) (hfits : Fits before i) :
    failure? (c.take i) = defect before i := by
  unfold take defect
  cases hi : i.item with
  | start tag => exact (failure?_map _ _).trans (enter_failure h i.position tag false)
  | empty tag => exact enter_failure h i.position tag true
  | close name =>
    obtain ⟨outer, hopen⟩ := exists_of_fits_close hfits hi
    obtain ⟨c', hleave, -⟩ := leave_progress h i.position hopen
    exact failure?_eq_none_iff.mpr ⟨c', hleave⟩
  | aside => rfl

/-- The collector takes items in which there is nothing wrong. -/
theorem foldlM_sound {items : List Located} (hfits : Along Fits items) (hsound : Sound items) :
    ∃ c, items.foldlM take {} = .ok c ∧ Follows c items := by
  refine foldlM_of_along (P := fun before i => Fits before i ∧ defect before i = none)
    (R := fun before c => Follows c before) follows_nil ?_ ?_
  · rintro before i c hfollows ⟨hi, hdefect⟩
    obtain ⟨c', htake⟩ := failure?_eq_none_iff.mp ((take_failure hfollows hi).trans hdefect)
    exact ⟨c', htake, take_follows hfollows hi htake⟩
  · intro before i after hitems
    exact ⟨hfits before i after hitems, hsound before i after hitems⟩

end Collector

/-! ## Dumps -/

/-- What is wrong with a document whose items are sound: an element stays open, or there is no
element, or a function has no name. -/
def endDefect (items : List Located) : Option Error :=
  match openAfter items with
  | name :: _ => some (.unclosed (Utf8.lossy name))
  | [] =>
    if items.any (·.item.tag?.isSome) then
      ((functionTags items).findIdx? fun tag => Text.isBlankText (nameOf tag)).map
        fun index => .missingName ⟨index⟩
    else some .noRoot

/-- The error is not about the end of the dump. -/
def Settled (octets : List UInt8) : Error → Prop
  | .attributes _ _ | .invalidLine _ _ _ | .secondRoot _ _ => True
  | .markup position e => ¬ EndsWithin octets ⟨position, e⟩
  | _ => False

theorem endDefect_cases {items : List Located} {e : Error} (h : endDefect items = some e) :
    (∃ name, e = .unclosed name) ∨ e = .noRoot ∨ ∃ index, e = .missingName ⟨index⟩ ∧
      (functionTags items).findIdx? (fun tag => Text.isBlankText (nameOf tag)) = some index := by
  unfold endDefect at h
  split at h
  · cases h
    exact .inl ⟨_, rfl⟩
  · split at h
    · obtain ⟨index, hindex, rfl⟩ := Option.map_eq_some_iff.mp h
      exact .inr (.inr ⟨index, rfl, hindex⟩)
    · cases h
      exact .inr (.inl rfl)

theorem not_settled_of_endDefect (octets : List UInt8) {items : List Located} {e : Error}
    (h : endDefect items = some e) : ¬ Settled octets e := by
  obtain ⟨name, rfl⟩ | rfl | ⟨index, rfl, -⟩ := endDefect_cases h
  · exact id
  · exact id
  · exact id

theorem ofReading_of_defect {r : Reading} {before after : List Located} {i : Located} {e : Error}
    (hfits : Along Fits r.items) (hitems : r.items = before ++ i :: after) (hsound : Sound before)
    (hdefect : defect before i = some e) : ofReading r = .error e := by
  rw [hitems] at hfits
  obtain ⟨c, hbefore, hfollows⟩ := Collector.foldlM_sound hfits.prefix hsound
  have hi := Collector.take_failure hfollows (hfits before i after rfl)
  have htake : c.take i = .error e := failure?_eq_some_iff.mp (hi.trans hdefect)
  unfold ofReading Collector.collect
  rw [hitems, List.foldlM_append, hbefore]
  simp only [bind, Except.bind, List.foldlM_cons, htake]

theorem ofReading_of_fault {r : Reading} {f : Fault} (hfits : Along Fits r.items)
    (hsound : Sound r.items) (hfault : r.fault = some f) :
    ofReading r = .error (.markup f.position f.error) := by
  obtain ⟨c, hitems, -⟩ := Collector.foldlM_sound hfits hsound
  unfold ofReading Collector.collect
  rw [hitems, hfault]
  rfl

theorem ofReading_of_sound {r : Reading} (hfits : Along Fits r.items) (hsound : Sound r.items)
    (hfault : r.fault = none) : failure? (ofReading r) = endDefect r.items := by
  obtain ⟨c, hitems, hfollows⟩ := Collector.foldlM_sound hfits hsound
  have hread : ofReading r =
      c.finish >>= fun found => (DeclarationSet.ensure found).mapError .missingName := by
    unfold ofReading Collector.collect
    rw [hitems, hfault]
    rfl
  rw [hread]
  unfold Collector.finish endDefect
  rw [hfollows.names, hfollows.root]
  cases hopen : openAfter r.items with
  | cons name outer => rfl
  | nil =>
    have hfound : (c.complete.reverse.map (Collector.resolveFile c.files)).map Declaration.name =
        (functionTags r.items).map nameOf := by
      rw [← hfollows.complete_names hopen, List.map_map]
      exact List.map_congr_left fun d _ => Collector.resolveFile_name c.files d
    have hensure := DeclarationSet.ensure_failure
      (c.complete.reverse.map (Collector.resolveFile c.files))
    rw [hfound, List.findIdx?_map] at hensure
    cases r.items.any (·.item.tag?.isSome) with
    | false => rfl
    | true =>
      refine (failure?_mapError _ _).trans ?_
      rw [hensure, Option.map_map]
      rfl

/-- The error of a dump is its first defect, or else its fault, or else what is wrong at its end. -/
theorem decode_error_cases {feed : Feed} {e : Error} (h : decode feed = .error e) :
    (∃ before i after, (read feed).items = before ++ i :: after ∧ Sound before ∧
        defect before i = some e) ∨
      (∃ f, (read feed).fault = some f ∧ e = .markup f.position f.error) ∨
      endDefect (read feed).items = some e := by
  by_cases hsound : Sound (read feed).items
  · cases hfault : (read feed).fault with
    | none =>
      have hend := ofReading_of_sound (read_fits feed) hsound hfault
      exact .inr (.inr (hend.symm.trans (failure?_eq_some_iff.mpr h)))
    | some f =>
      have hmarkup := ofReading_of_fault (read_fits feed) hsound hfault
      exact .inr (.inl ⟨f, rfl, Except.error.inj (h.symm.trans hmarkup)⟩)
  · obtain ⟨before, i, after, hitems, hbefore, hi⟩ := exists_first hsound
    obtain ⟨e', hdefect⟩ := Option.ne_none_iff_exists'.mp hi
    have hfirst := ofReading_of_defect (read_fits feed) hitems hbefore hdefect
    obtain rfl : e = e' := Except.error.inj (h.symm.trans hfirst)
    exact .inl ⟨before, i, after, hitems, hbefore, hdefect⟩

/-- The error of a dump is the one of its first defect, and the end of the dump is not looked at
unless there is none. What comes after a defect does not change it. -/
theorem decode_first_defect :
    (∀ feed : Feed,
      Placed feed (read feed) ∧
      (∀ before i after e, (read feed).items = before ++ i :: after → Sound before →
        defect before i = some e → decode feed = .error e) ∧
      (Sound (read feed).items →
        (∀ f, (read feed).fault = some f → decode feed = .error (.markup f.position f.error)) ∧
        ((read feed).fault = none → failure? (decode feed) = endDefect (read feed).items))) ∧
    ∀ octets e, decodeOctets octets = .error e → Settled octets e →
      ∀ more, decodeOctets (octets ++ more) = .error e := by
  refine ⟨fun feed => ⟨read_placed feed, ?_, fun hsound => ⟨?_, ?_⟩⟩, ?_⟩
  · intro before i after e hitems hsound hdefect
    exact ofReading_of_defect (read_fits feed) hitems hsound hdefect
  · intro f hfault
    exact ofReading_of_fault (read_fits feed) hsound hfault
  · intro hfault
    exact ofReading_of_sound (read_fits feed) hsound hfault
  · intro octets e he hsettled more
    obtain ⟨⟨later, hitems⟩, hsame⟩ := read_append octets more
    obtain ⟨before, i, after, hbefore, hsound, hdefect⟩ | ⟨f, hfault, rfl⟩ | hend :=
      decode_error_cases he
    · have hmore : (read (.whole (octets ++ more))).items = before ++ i :: (after ++ later) := by
        rw [← hitems, hbefore, List.append_assoc, List.cons_append]
      exact ofReading_of_defect (read_fits _) hmore hsound hdefect
    · rw [decodeOctets, decode_eq, hsame f hfault hsettled]
      exact he
    · exact absurd hsettled (not_settled_of_endDefect octets hend)

/-- A line that is no number, before an attribute without a value, an end tag that does not fit, and
whatever else. -/
theorem decode_first_defect_line :
    ∃ (octets : List UInt8) (before : List Located) (i : Located) (after : List Located),
      octets = Utf8.encode "<r><Function line='x' name='f'/><Function name=/></q>" ∧
      (read (.whole octets)).items = before ++ i :: after ∧ Sound before ∧
      defect before i = some (.invalidLine 0 "line" "x") ∧
      decode (.whole octets) = .error (.invalidLine 0 "line" "x") ∧
      ∀ more, decodeOctets (octets ++ more) = .error (.invalidLine 0 "line" "x") := by
  obtain ⟨octets, hoctets⟩ : ∃ octets, octets =
    Utf8.encode "<r><Function line='x' name='f'/><Function name=/></q>" := ⟨_, rfl⟩
  obtain ⟨first, hfirst⟩ : ∃ first : Located, first = ⟨0, .start ⟨Utf8.encode "r"⟩⟩ := ⟨_, rfl⟩
  obtain ⟨i, hi⟩ : ∃ i : Located,
    i = ⟨3, .empty ⟨Utf8.encode "Function line='x' name='f'"⟩⟩ := ⟨_, rfl⟩
  obtain ⟨after, hafter⟩ : ∃ after : List Located,
    after = [⟨32, .empty ⟨Utf8.encode "Function name="⟩⟩] := ⟨_, rfl⟩
  have hitems : (read (.whole octets)).items = [first] ++ i :: after := by
    rw [hoctets, hfirst, hi, hafter]
    decide +kernel
  have hsound : Sound [first] := by
    show Sound ([] ++ [first])
    refine along_concat.mpr ⟨along_nil, ?_⟩
    rw [hfirst]
    decide +kernel
  have hdefect : defect [first] i = some (.invalidLine 0 "line" "x") := by
    rw [hfirst, hi]
    decide +kernel
  have hdecode := (decode_first_defect.1 (.whole octets)).2.1 _ _ _ _ hitems hsound hdefect
  exact ⟨octets, [first], i, after, hoctets, hitems, hsound, hdefect, hdecode,
    decode_first_defect.2 octets _ hdecode trivial⟩

end BindingCoverage.Dump
