import BindingCoverage.Dump.Collector
import BindingCoverage.Proofs.Results
import BindingCoverage.Proofs.Xml.Position

/-!
# Positions in a dump

Positions are handed on and nothing else: what is collected does not depend on them, and neither
does which error there is.

* `Collector.take_mapPosition`: this holds for every item.
* `ofReading_mapPosition`, `ofReading_tags`: so it holds for a whole reading, also without what
  stands between its tags.
* `ofReading_outline`: what a reading declares, and which error it has, is all in its tags.
-/

namespace BindingCoverage.Dump

open Xml (Located Reading Tag)

/-- The error at another position, if it has one. -/
def Error.mapPosition (f : Nat → Nat) : Error → Error
  | .markup position e => .markup (f position) e
  | .attributes position e => .attributes (f position) e
  | .mismatchedEnd expected found position => .mismatchedEnd expected found (f position)
  | .secondRoot name position => .secondRoot name (f position)
  | e => e

/-- The error without its position. -/
def Error.unplaced : Error → Error := mapPosition fun _ => 0

variable (f : Nat → Nat)

theorem attributesOf_mapPosition (position : Nat) (tag : Tag) :
    attributesOf (f position) tag = (attributesOf position tag).mapError (·.mapPosition f) := by
  unfold attributesOf
  simp only [mapError_bind, ← mapM_mapError, mapError_mapError]
  cases tag.attributes.error with
  | some e => rfl
  | none => rfl

theorem locate_mapPosition (index : Nat) (file line location : Option String) :
    (locate index file line location).mapError (·.mapPosition f) =
      locate index file line location := by
  unfold locate
  split
  · split
    · rfl
    · rfl
  · split
    · rfl
    · split
      · rfl
      · rfl

theorem declarationOf_mapPosition (index position : Nat) (tag : Tag) :
    declarationOf index (f position) tag =
      (declarationOf index position tag).mapError (·.mapPosition f) := by
  simp only [declarationOf, attributesOf_mapPosition, mapError_bind, locate_mapPosition]
  rfl

namespace Collector

theorem enterFunction_mapPosition (c : Collector) (position : Nat) (tag : Tag) (isEmpty : Bool) :
    c.enterFunction (f position) tag isEmpty =
      (c.enterFunction position tag isEmpty).mapError (·.mapPosition f) := by
  unfold enterFunction
  cases c.current with
  | some _ => rfl
  | none =>
    simp only [declarationOf_mapPosition, mapError_bind]
    cases isEmpty with
    | true => rfl
    | false => rfl

theorem enterArgument_mapPosition (c : Collector) (position : Nat) (tag : Tag) :
    c.enterArgument (f position) tag =
      (c.enterArgument position tag).mapError (·.mapPosition f) := by
  unfold enterArgument
  cases c.inFunction with
  | none => rfl
  | some d =>
    simp only [attributesOf_mapPosition, mapError_bind]
    rfl

theorem enterFile_mapPosition (c : Collector) (position : Nat) (tag : Tag) :
    c.enterFile (f position) tag = (c.enterFile position tag).mapError (·.mapPosition f) := by
  unfold enterFile
  simp only [attributesOf_mapPosition, mapError_bind]
  congr 1
  funext attributes
  split
  · rfl
  · rfl

theorem enterElement_mapPosition (c : Collector) (position : Nat) (tag : Tag) (isEmpty : Bool) :
    c.enterElement (f position) tag isEmpty =
      (c.enterElement position tag isEmpty).mapError (·.mapPosition f) := by
  unfold enterElement
  simp only [enterFunction_mapPosition, enterArgument_mapPosition, enterFile_mapPosition,
    apply_ite (Except.mapError (Error.mapPosition f))]
  rfl

theorem enter_mapPosition (c : Collector) (position : Nat) (tag : Tag) (isEmpty : Bool) :
    c.enter (f position) tag isEmpty =
      (c.enter position tag isEmpty).mapError (·.mapPosition f) := by
  unfold enter
  rw [enterElement_mapPosition]
  split
  · rfl
  · rfl

theorem leave_mapPosition (c : Collector) (position : Nat) (name : List UInt8) :
    c.leave (f position) name = (c.leave position name).mapError (·.mapPosition f) := by
  unfold leave
  dsimp only
  split
  · rfl
  · split
    · split
      · split
        · rfl
        · rfl
      · rfl
    · rfl

theorem take_mapPosition (c : Collector) (i : Located) :
    c.take (i.mapPosition f) = (c.take i).mapError (·.mapPosition f) := by
  unfold take Located.mapPosition
  cases i.item with
  | start tag =>
    simp only [enter_mapPosition, mapError_bind]
    rfl
  | empty tag => exact enter_mapPosition f c i.position tag true
  | close name => exact leave_mapPosition f c i.position name
  | aside => rfl

theorem collect_mapPosition (r : Reading) :
    collect (r.mapPosition f) = (collect r).mapError (·.mapPosition f) := by
  unfold collect
  simp only [Reading.mapPosition, List.foldlM_map, take_mapPosition, foldlM_mapError, mapError_bind]
  cases r.fault with
  | some fault => rfl
  | none => rfl

theorem take_aside {i : Located} (h : i.item = .aside) (c : Collector) : c.take i = .ok c := by
  unfold take
  rw [h]

theorem foldlM_take_tags (items : List Located) :
    ∀ c : Collector, (items.filter (·.item ≠ .aside)).foldlM take c = items.foldlM take c := by
  induction items with
  | nil => intro c; rfl
  | cons i rest ih =>
    intro c
    by_cases h : i.item = .aside
    · rw [List.filter_cons_of_neg (by simpa using h), List.foldlM_cons, take_aside h]
      exact ih c
    · rw [List.filter_cons_of_pos (by simpa using h), List.foldlM_cons, List.foldlM_cons]
      exact congrArg (take c i >>= ·) (funext ih)

theorem collect_tags (r : Reading) : collect r.tags = collect r := by
  unfold collect Reading.tags
  rw [foldlM_take_tags]

end Collector

/-! ## Sets -/

/-- The set of functions that a reading declares. -/
def ofReading (r : Reading) : Except Error DeclarationSet := do
  let found ← (← Collector.collect r).finish
  (DeclarationSet.ensure found).mapError .missingName

theorem decode_eq (feed : Xml.Feed) : decode feed = ofReading (Xml.read feed) := rfl

/-- What is wrong with a complete document has no position. -/
theorem finish_mapPosition (c : Collector) :
    c.finish.mapError (·.mapPosition f) = c.finish := by
  unfold Collector.finish
  split
  · rfl
  · split
    · rfl
    · rfl

theorem ofReading_mapPosition (r : Reading) :
    ofReading (r.mapPosition f) = (ofReading r).mapError (·.mapPosition f) := by
  simp only [ofReading, Collector.collect_mapPosition, mapError_bind, finish_mapPosition,
    mapError_mapError]
  rfl

theorem ofReading_tags (r : Reading) : ofReading r.tags = ofReading r := by
  unfold ofReading
  rw [Collector.collect_tags]

/-- Without its position, an error does not depend on where the tags stand. -/
theorem ofReading_outline (r : Reading) :
    ofReading r.outline.nested = (ofReading r.nested).mapError Error.unplaced := by
  rw [Xml.nested_outline, Reading.outline, ofReading_mapPosition, ofReading_tags]
  rfl

end BindingCoverage.Dump
