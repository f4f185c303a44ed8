import BindingCoverage.Proofs.Dump.Defect
import BindingCoverage.Proofs.Xml.AttributeSyntax

/-!
# What is not read

Of an element whose attributes are not looked at, only the name counts, and what comes after the
name need not be attributes. `skim` leaves that out of a reading.

* `decode_skim`: a dump decodes to what its skimmed reading says.
* `decode_reads`: attributes that are looked at have to follow the syntax, and all others can be
  anything.
-/

namespace BindingCoverage.Dump

open Xml

/-- The tag without what comes after its name. -/
def bare (tag : Tag) : Tag := ⟨tag.name⟩

def skimTag (names : List (List UInt8)) (tag : Tag) : Tag :=
  if IsRead names tag then tag else bare tag

/-- The item without attributes that are not looked at. -/
def skimItem (names : List (List UInt8)) : Item → Item
  | .start tag => .start (skimTag names tag)
  | .empty tag => .empty (skimTag names tag)
  | .close name => .close name
  | .aside => .aside

def skimFrom (names : List (List UInt8)) : List Located → List Located
  | [] => []
  | i :: rest => { i with item := skimItem names i.item } :: skimFrom (i.item.within names) rest

/-- The reading without attributes that are not looked at. -/
def skim (r : Reading) : Reading := { r with items := skimFrom [] r.items }

theorem skimFrom_append (xs ys : List Located) :
    ∀ names, skimFrom names (xs ++ ys) =
      skimFrom names xs ++ skimFrom (xs.foldl (fun names i => i.item.within names) names) ys := by
  induction xs with
  | nil => intro names; rfl
  | cons i rest ih =>
    intro names
    simp only [List.cons_append, skimFrom, ih, List.foldl_cons]

theorem bare_name (tag : Tag) : (bare tag).name = tag.name := by
  show tag.name.takeWhile (!isBlank ·) = tag.name
  unfold Tag.name
  rw [List.takeWhile_takeWhile]
  simp

namespace Collector

variable {c : Collector}

/-- Of an element whose attributes are not looked at, only the name counts. -/
theorem enterElement_of_not_isRead {names : List (List UInt8)}
    (hcurrent : c.current = none ↔ Utf8.encode "Function" ∉ names)
    (hplace : c.inFunction = none ↔ ¬ DirectlyInFunction names) {tag tag' : Tag}
    (hread : ¬ IsRead names tag) (hname : tag'.name = tag.name) (position : Nat) (isEmpty : Bool) :
    c.enterElement position tag' isEmpty = c.enterElement position tag isEmpty := by
  unfold enterElement
  rw [hname]
  split_ifs with hFunction hArgument hEllipsis hFile
  · have hopen : c.current ≠ none := by
      intro hnone
      exact hread (.inl ⟨hFunction, hcurrent.mp hnone⟩)
    obtain ⟨function, hfunction⟩ := Option.ne_none_iff_exists'.mp hopen
    unfold enterFunction
    rw [hfunction]
  · have houtside : c.inFunction = none := by
      rw [hplace]
      intro hdirect
      exact hread (.inr (.inl ⟨hArgument, hdirect⟩))
    unfold enterArgument
    rw [houtside]
  · rfl
  · exact absurd (.inr (.inr hFile)) hread
  · rfl

variable {before : List Located}

theorem enter_skimTag (h : Follows c before) (position : Nat) (tag : Tag) (isEmpty : Bool) :
    c.enter position (skimTag (openAfter before) tag) isEmpty = c.enter position tag isEmpty := by
  unfold skimTag
  by_cases hread : IsRead (openAfter before) tag
  · rw [if_pos hread]
  · have helement := enterElement_of_not_isRead (c := { c with sawRoot := true })
      h.current_eq_none_iff h.inFunction hread (bare_name tag) position isEmpty
    rw [if_neg hread]
    unfold enter
    rw [bare_name, helement]

theorem skimTag_name (names : List (List UInt8)) (tag : Tag) :
    (skimTag names tag).name = tag.name := by
  unfold skimTag
  split
  · rfl
  · exact bare_name tag

theorem take_skimItem (h : Follows c before) (i : Located) :
    c.take { i with item := skimItem (openAfter before) i.item } = c.take i := by
  unfold take
  cases i.item with
  | start tag => simp only [skimItem, enter_skimTag h, skimTag_name]
  | empty tag => exact enter_skimTag h i.position tag true
  | close name => rfl
  | aside => rfl

/-- The items are taken alike, as far as they are taken. -/
theorem foldlM_skimFrom {items : List Located} (hfits : Along Fits items) :
    (skimFrom [] items).foldlM take {} = items.foldlM take {} := by
  -- From the end: what is looked at in an item depends on the items before it.
  induction items using List.reverseRecOn with
  | nil => rfl
  | append_singleton items i ih =>
    obtain ⟨hitems, -⟩ := along_concat.mp hfits
    have hlast : skimFrom [] (items ++ [i]) =
        skimFrom [] items ++ [{ i with item := skimItem (openAfter items) i.item }] :=
      skimFrom_append items [i] []
    rw [hlast, foldlM_concat, foldlM_concat, ih hitems]
    cases htaken : items.foldlM take ({} : Collector) with
    | error e => rfl
    | ok c => exact take_skimItem (foldlM_follows hitems htaken) i

end Collector

theorem decode_skim (feed : Feed) : ofReading (skim (read feed)) = decode feed := by
  rw [decode_eq]
  unfold ofReading Collector.collect skim
  dsimp only
  rw [Collector.foldlM_skimFrom (read_fits feed)]

/-- What is accepted has no defect. -/
theorem sound_of_decode {feed : Feed} {s : DeclarationSet} (h : decode feed = .ok s) :
    Sound (read feed).items := by
  by_contra hdefect
  obtain ⟨before, i, after, hitems, hsound, hi⟩ := exists_first hdefect
  obtain ⟨e, he⟩ := Option.ne_none_iff_exists'.mp hi
  have herror := ofReading_of_defect (read_fits feed) hitems hsound he
  rw [← decode_eq, h] at herror
  cases herror

/-- Tags follow the syntax of attributes where `P` holds of the elements around them and of them. -/
def WellFormedWhere (P : List (List UInt8) → Tag → Prop) (items : List Located) : Prop :=
  Along (fun before i => ∀ tag, i.item.tag? = some tag → P (openAfter before) tag → tag.WellFormed)
    items

theorem wellFormed_of_sound {items : List Located} (h : Sound items) :
    WellFormedWhere IsRead items := by
  intro before i after hitems tag htag hread
  have hsound : defect before i = none := h before i after hitems
  have hattributes : attributeDefect i.position tag = none := by
    rw [defect, htag, Option.bind_some, tagDefect] at hsound
    split_ifs at hsound
    · exact (Option.or_eq_none_iff.mp hsound).1
    · exact (Option.or_eq_none_iff.mp hsound).1
  exact Tag.wellFormed_iff.mpr (attributeDefect_eq_none_iff.mp hattributes).wellFormed

/-- In a dump that is accepted, all attributes that are looked at follow the syntax: those of
functions that are within no other one, of their direct arguments, and of files. So all attributes
follow it exactly when those do that are not looked at, and these make no difference but for the
places of errors. -/
theorem decode_reads (feed : Feed) :
    (∀ s, decode feed = .ok s →
      WellFormedWhere IsRead (read feed).items ∧
      (WellFormedWhere (fun _ _ => True) (read feed).items ↔
        WellFormedWhere (fun names tag => ¬ IsRead names tag) (read feed).items)) ∧
    ∀ feed',
      (skim (read feed)).mapPosition (fun _ => 0) = (skim (read feed')).mapPosition (fun _ => 0) →
      (decode feed).mapError Error.unplaced = (decode feed').mapError Error.unplaced := by
  constructor
  · intro s h
    have hread := wellFormed_of_sound (sound_of_decode h)
    refine ⟨hread, fun hall => ?_, fun hunread => ?_⟩
    · intro before i after hitems tag htag _
      exact hall before i after hitems tag htag trivial
    · intro before i after hitems tag htag _
      by_cases h : IsRead (openAfter before) tag
      · exact hread before i after hitems tag htag h
      · exact hunread before i after hitems tag htag h
  · intro feed' h
    have hsame := congrArg ofReading h
    rw [ofReading_mapPosition, ofReading_mapPosition, decode_skim, decode_skim] at hsame
    exact hsame

/-- Attributes of the root element and within a function that follow no syntax. -/
theorem decode_reads_skipped :
    ∃ feed feed' : Feed,
      feed = .whole (Utf8.encode "<r a><Function name='f'><x b='1' b></x></Function></r>") ∧
      feed' = .whole (Utf8.encode "<r><Function name='f'><x></x></Function></r>") ∧
      decode feed = .ok ⟨[.named "f"]⟩ ∧ WellFormedWhere IsRead (read feed).items ∧
      (skim (read feed)).mapPosition (fun _ => 0) = (skim (read feed')).mapPosition (fun _ => 0) ∧
      (decode feed).mapError Error.unplaced = (decode feed').mapError Error.unplaced := by
  refine ⟨_, _, rfl, rfl, ?decoded, ((decode_reads _).1 _ ?decoded).1, ?skims,
    (decode_reads _).2 _ ?skims⟩
  case decoded => decide +kernel
  case skims => decide +kernel

/-- A root element whose attribute has no value. -/
theorem decodeOctets_root_attribute :
    ∃ octets : List UInt8,
      octets = Utf8.encode "<CastXML format><Function name=\"f\"/></CastXML>" ∧
      decodeOctets octets = .ok ⟨[.named "f"]⟩ ∧
      ¬ WellFormedWhere (fun _ _ => True) (read (.whole octets)).items := by
  refine ⟨_, rfl, ?_, fun h => ?_⟩
  · decide +kernel
  · have hitems : (read (.whole (Utf8.encode
        "<CastXML format><Function name=\"f\"/></CastXML>"))).items.head? =
          some ⟨0, .start ⟨Utf8.encode "CastXML format"⟩⟩ := by decide +kernel
    obtain ⟨rest, hrest⟩ := List.head?_eq_some_iff.mp hitems
    have hroot := Tag.wellFormed_iff.mp (h [] _ rest hrest _ rfl trivial)
    revert hroot
    decide +kernel

end BindingCoverage.Dump
