import Mathlib
import BindingCoverage.Xml.Entity

/-!
# Reading the text that was escaped

* `unescape_escape`: a text is read from its escaped form.
* `quote_not_mem_escape`: an escaped text can stand between double quotes.
-/

namespace BindingCoverage.Xml

/-- An escaped character is read as that character; only the offset after it depends on its form. -/
theorem unescapeFrom_escapeChar (c : Char) (rest : List Char) (offset : Nat) :
    ∃ offset', unescapeFrom offset none (escapeChar c ++ rest) =
      (c :: ·) <$> unescapeFrom offset' none rest := by
  unfold escapeChar
  split
  · subst c
    exact ⟨_, rfl⟩
  · rename_i hamp
    split
    · subst c
      exact ⟨_, rfl⟩
    · split
      · subst c
        exact ⟨_, rfl⟩
      · split
        · subst c
          exact ⟨_, rfl⟩
        · refine ⟨offset + c.utf8Size, ?_⟩
          rw [List.singleton_append, unescapeFrom, if_neg hamp]

theorem unescapeFrom_escape (cs : List Char) :
    ∀ offset, unescapeFrom offset none (cs.flatMap escapeChar) = .ok cs := by
  induction cs with
  | nil => intro offset; rfl
  | cons c rest ih =>
    intro offset
    obtain ⟨offset', hc⟩ := unescapeFrom_escapeChar c (rest.flatMap escapeChar) offset
    rw [List.flatMap_cons, hc, ih]
    rfl

theorem unescape_escape (s : String) : unescape (escape s) = .ok s := by
  unfold unescape escape
  rw [String.toList_ofList, unescapeFrom_escape]
  change Except.ok (String.ofList s.toList) = .ok s
  rw [String.ofList_toList]

theorem quote_not_mem_escapeChar (c : Char) : '"' ∉ escapeChar c := by
  unfold escapeChar
  split
  · decide
  · split
    · decide
    · split
      · decide
      · split
        · decide
        · rename_i hquote
          rw [List.mem_singleton]
          exact fun h => hquote h.symm

theorem quote_not_mem_escape (s : String) : '"' ∉ (escape s).toList := by
  unfold escape
  rw [String.toList_ofList, List.mem_flatMap]
  rintro ⟨c, -, hc⟩
  exact quote_not_mem_escapeChar c hc

end BindingCoverage.Xml
