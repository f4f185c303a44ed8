import BindingCoverage.Dump.Location
import BindingCoverage.Proofs.Results
import BindingCoverage.Proofs.Xml.Attribute

/-!
# Where a function is declared

`LineReads` says when the line of a function can be read from its tag, and `placeOf` is the file
reference and the line that are read then.

* `splitAtLastColon_eq_some_iff`: the last colon is the one with no other after it.
* `locate_brings`: `locate` fails exactly when the line cannot be read.
-/

namespace BindingCoverage.Dump

theorem splitAtLastColon_eq_some_iff {text place line : String} :
    splitAtLastColon text = some (place, line) ↔
      text = place ++ ":" ++ line ∧ ':' ∉ line.toList := by
  have hcolon : ":".toList = [':'] := rfl
  unfold splitAtLastColon
  constructor
  · intro h
    have hjoin := List.takeWhile_append_dropWhile (p := (· != ':')) (l := text.toList.reverse)
    have hhead := List.head?_dropWhile_not (· != ':') text.toList.reverse
    have htake : ∀ c ∈ text.toList.reverse.takeWhile (· != ':'), c ≠ ':' := by
      intro c hc
      simpa using List.mem_takeWhile_imp hc
    simp only at h
    split at h
    · cases h
    · rename_i c before hdrop
      cases h
      rw [hdrop] at hjoin hhead
      obtain rfl : c = ':' := by simpa using hhead
      refine ⟨?_, fun hc => htake _ (by simpa using hc) rfl⟩
      apply String.toList_inj.mp
      rw [← List.reverse_inj]
      simpa [hcolon] using hjoin.symm
  · rintro ⟨rfl, hline⟩
    have hne : ∀ c ∈ line.toList.reverse, (c != ':') = true := by
      intro c hc
      simp only [bne_iff_ne, ne_eq]
      rintro rfl
      exact hline (List.mem_reverse.mp hc)
    have hrev : (place ++ ":" ++ line).toList.reverse =
        line.toList.reverse ++ ':' :: place.toList.reverse := by
      simp [hcolon]
    simp only [hrev, List.dropWhile_append_of_pos hne, List.takeWhile_append_of_pos hne]
    simp

/-- The line of a function can be read: it is in the `line` attribute or, without that one, after
the last colon of the `location`, if there is a colon. -/
structure LineReads (tag : Xml.Tag) : Prop where
  line : ∀ text, tag.text? "line" = some text → (line? text).isSome
  location : tag.text? "line" = none → ∀ place text,
    tag.text? "location" = some (place ++ ":" ++ text) → ':' ∉ text.toList → (line? text).isSome

/-- The file reference and the line in the tag of a function. -/
def placeOf (tag : Xml.Tag) : Option String × Option UInt32 :=
  match tag.text? "line", (tag.text? "location").bind splitAtLastColon with
  | some text, _ => (tag.text? "file", line? text)
  | none, some (place, text) => ((tag.text? "file").or (some place), line? text)
  | none, none => (tag.text? "file", none)

theorem lineReads_of_line {tag : Xml.Tag} {text : String} (hline : tag.text? "line" = some text) :
    LineReads tag ↔ (line? text).isSome := by
  constructor
  · intro h
    exact h.line text hline
  · intro h
    refine ⟨fun text' hline' => ?_, fun hnone => ?_⟩
    · rw [hline] at hline'
      cases hline'
      exact h
    · rw [hline] at hnone
      cases hnone

theorem lineReads_of_location {tag : Xml.Tag} {location place text : String}
    (hline : tag.text? "line" = none) (hlocation : tag.text? "location" = some location)
    (hsplit : splitAtLastColon location = some (place, text)) :
    LineReads tag ↔ (line? text).isSome := by
  obtain ⟨he, hc⟩ := splitAtLastColon_eq_some_iff.mp hsplit
  constructor
  · intro h
    exact h.location hline place text (hlocation.trans (congrArg some he)) hc
  · intro h
    refine ⟨fun text' hline' => ?_, fun _ place' text' hlocation' hc' => ?_⟩
    · rw [hline] at hline'
      cases hline'
    · rw [hlocation] at hlocation'
      have hsplit' := splitAtLastColon_eq_some_iff.mpr ⟨Option.some.inj hlocation', hc'⟩
      rw [hsplit] at hsplit'
      cases hsplit'
      exact h

theorem lineReads_of_no_colon {tag : Xml.Tag} (hline : tag.text? "line" = none)
    (hplace : (tag.text? "location").bind splitAtLastColon = none) : LineReads tag := by
  refine ⟨fun text hline' => ?_, fun _ place text hlocation hc => ?_⟩
  · rw [hline] at hline'
    cases hline'
  · rw [hlocation, Option.bind_some, splitAtLastColon_eq_some_iff.mpr ⟨rfl, hc⟩] at hplace
    cases hplace

theorem locate_brings (index : Nat) (tag : Xml.Tag) :
    Brings (locate index (tag.text? "file") (tag.text? "line") (tag.text? "location"))
      (LineReads tag) (placeOf tag) := by
  unfold locate placeOf
  cases hline : tag.text? "line" with
  | some text =>
    have hreads := lineReads_of_line hline
    cases hn : line? text with
    | none =>
      simp only [hn]
      refine Brings.error ?_ _ _
      simp [hreads, hn]
    | some n =>
      simp only [hn]
      refine Brings.ok ?_ _
      simp [hreads, hn]
  | none =>
    cases hplace : (tag.text? "location").bind splitAtLastColon with
    | none => exact Brings.ok (lineReads_of_no_colon hline hplace) _
    | some parts =>
      obtain ⟨place, text⟩ := parts
      obtain ⟨location, hlocation, hsplit⟩ := Option.bind_eq_some_iff.mp hplace
      have hreads := lineReads_of_location hline hlocation hsplit
      cases hn : line? text with
      | none =>
        simp only [hn]
        refine Brings.error ?_ _ _
        simp [hreads, hn]
      | some n =>
        simp only [hn]
        refine Brings.ok ?_ _
        simp [hreads, hn]

end BindingCoverage.Dump
