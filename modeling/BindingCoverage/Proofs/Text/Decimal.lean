import Mathlib
import BindingCoverage.Text.Decimal

/-!
# Reading numbers

* `natural?_eq_some_iff`, `unsigned?_eq_some_iff`: the texts that are read as numbers.
* `unsigned?_toString`: a number of so many bits is read from its decimal digits.
-/

namespace BindingCoverage.Text

theorem digitsValue_eq (digits : List Char) :
    digitsValue digits = Nat.ofDigitChars 10 digits 0 := by
  rw [digitsValue, Nat.ofDigitChars_eq_foldl]
  simp only [Nat.mul_comm]

/-- The digits write the number `n`. -/
structure Numeral (digits : List Char) (n : Nat) : Prop where
  nonempty : digits ≠ []
  isDigit : ∀ c ∈ digits, c.isDigit = true
  value : Nat.ofDigitChars 10 digits 0 = n

theorem natural?_eq_some_iff {digits : List Char} {n : Nat} :
    natural? digits = some n ↔ Numeral digits n := by
  unfold natural?
  constructor
  · intro h
    split_ifs at h with hguard
    rw [Bool.or_eq_true, not_or, List.isEmpty_iff, Bool.not_eq_true', Bool.not_eq_false,
      List.all_eq_true] at hguard
    cases h
    exact ⟨hguard.1, hguard.2, (digitsValue_eq digits).symm⟩
  · rintro ⟨hnonempty, hdigits, rfl⟩
    have hguard : (digits.isEmpty || !digits.all Char.isDigit) = false := by
      rw [List.all_eq_true.mpr hdigits, List.isEmpty_eq_false_iff.mpr hnonempty]
      rfl
    rw [hguard, digitsValue_eq]
    exact if_neg Bool.false_ne_true

theorem not_numeral_plus (digits : List Char) (n : Nat) : ¬ Numeral ('+' :: digits) n := by
  intro h
  exact absurd (h.isDigit '+' List.mem_cons_self) (by decide)

theorem unsigned?_eq_some_iff {bits n : Nat} {text : String} :
    unsigned? bits text = some n ↔
      ∃ digits, (text.toList = digits ∨ text.toList = '+' :: digits) ∧ Numeral digits n ∧
        n < 2 ^ bits := by
  unfold unsigned?
  extract_lets digits
  have hread : text.toList = '+' :: digits ∨
      text.toList = digits ∧ ∀ rest, text.toList ≠ '+' :: rest := by
    unfold digits
    split
    · rename_i rest htext
      exact .inl htext
    · rename_i hunsigned
      exact .inr ⟨rfl, hunsigned⟩
  have hdigits : (∃ digits, (text.toList = digits ∨ text.toList = '+' :: digits) ∧
      Numeral digits n ∧ n < 2 ^ bits) ↔ Numeral digits n ∧ n < 2 ^ bits := by
    constructor
    · rintro ⟨digits', htext | htext, hn, hlt⟩
      · obtain hsigned | ⟨hsame, -⟩ := hread
        · rw [← htext, hsigned] at hn
          exact absurd hn (not_numeral_plus digits n)
        · rw [← hsame, htext]
          exact ⟨hn, hlt⟩
      · obtain hsigned | ⟨-, hunsigned⟩ := hread
        · rw [htext] at hsigned
          cases hsigned
          exact ⟨hn, hlt⟩
        · exact absurd htext (hunsigned digits')
    · intro h
      obtain hsigned | ⟨hsame, -⟩ := hread
      · exact ⟨digits, .inr hsigned, h⟩
      · exact ⟨digits, .inl hsame, h⟩
  rw [hdigits, ← natural?_eq_some_iff]
  cases natural? digits with
  | none => simp
  | some m =>
    dsimp only
    split_ifs with hlt
    · constructor
      · intro h
        cases h
        exact ⟨rfl, hlt⟩
      · exact fun h => h.1
    · constructor
      · intro h
        cases h
      · rintro ⟨h, hn⟩
        cases h
        exact absurd hn hlt

theorem natural?_toDigits (n : Nat) : natural? (Nat.toDigits 10 n) = some n := by
  have hnonempty : (Nat.toDigits 10 n).isEmpty = false := by
    rw [List.isEmpty_eq_false_iff]
    exact Nat.toDigits_ne_nil
  have hdigits : (Nat.toDigits 10 n).all Char.isDigit = true :=
    List.all_eq_true.mpr fun c hc => Nat.isDigit_of_mem_toDigits (by decide) (by decide) hc
  rw [natural?, hnonempty, hdigits, digitsValue_eq, Nat.ofDigitChars_ten_toDigits]
  rfl

theorem unsigned?_toString {bits n : Nat} (h : n < 2 ^ bits) :
    unsigned? bits (toString n) = some n := by
  have htext : (toString n).toList = Nat.toDigits 10 n := by
    rw [Nat.toString_eq_ofList_toDigits, String.toList_ofList]
  unfold unsigned?
  rw [htext]
  split
  · -- A number is written without a sign.
    rename_i rest hplus
    have hdigit : '+'.isDigit = true :=
      Nat.isDigit_of_mem_toDigits (by decide) (by decide) (hplus ▸ List.mem_cons_self)
    exact absurd hdigit (by decide)
  · simp only [natural?_toDigits]
    exact if_pos h

end BindingCoverage.Text
