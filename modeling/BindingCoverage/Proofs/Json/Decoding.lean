import BindingCoverage.Proofs.Json.Layout
import BindingCoverage.Proofs.Json.Reading

/-!
# Reading typed values from any layout

`Takes decoder depth v a` says that the decoder reads `a` from every text that writes the value `v`,
whatever blanks the text has and whatever comes after it.

* `takes_string`, `takes_bool`, `takes_u32`, `takes_u64`, `takes_option`: scalars.
* `takes_list`: a list, from what is taken from its items.
* `Decoder.run_takes`: a whole text.
-/

namespace BindingCoverage.Json

variable {α : Type}

/-- The octet begins a value that is not `null`. -/
structure Opens (b : UInt8) : Prop where
  notBlank : isBlank b = false
  notBracket : b ≠ 0x5D
  notNull : b ≠ 0x6E

/-- The reader reads the text as `a`, with any blanks before it and whatever comes after it. -/
structure Reads (read : Cursor → Except Error (α × Cursor)) (text : List UInt8) (a : α) : Prop where
  opens : ∃ b more, text = b :: more ∧ Opens b
  result : ∀ ⦃c : Cursor⦄ ⦃rest : List UInt8⦄, c.skipBlanks.rest = text ++ rest → Ends rest →
    ∃ c', read c = .ok (a, c') ∧ c'.rest = rest

/-- The decoder reads every text that writes the value `v` as `a`. -/
def Takes (decoder : Decoder α) (depth : Nat) (v : Json) (a : α) : Prop :=
  ∀ text, Writes v text → Reads (decoder depth) text a

/-! ## Between values -/

theorem Cursor.skipBlanks_rest_of_blanks {c : Cursor} {blanks more : List UInt8} {b : UInt8}
    (h : c.rest = blanks ++ b :: more) (hBlanks : Blanks blanks) (hb : isBlank b = false) :
    c.skipBlanks.rest = b :: more := by
  rw [skipBlanks_rest, h, List.dropWhile_append_of_pos hBlanks,
    List.dropWhile_cons_of_neg (by rw [hb]; exact Bool.false_ne_true)]

/-- Before a value there may be blanks. -/
theorem Reads.after_blanks {read : Cursor → Except Error (α × Cursor)} {text blanks : List UInt8}
    {a : α} (h : Reads read text a) (hBlanks : Blanks blanks) {c : Cursor} {rest : List UInt8}
    (hc : c.rest = blanks ++ (text ++ rest)) (hEnds : Ends rest) :
    ∃ c', read c = .ok (a, c') ∧ c'.rest = rest := by
  obtain ⟨b, more, rfl, hOpens⟩ := h.opens
  exact h.result (Cursor.skipBlanks_rest_of_blanks hc hBlanks hOpens.notBlank) hEnds

theorem ends_of_blanks {blanks rest : List UInt8} (hBlanks : Blanks blanks) (h : Ends rest) :
    Ends (blanks ++ rest) := by
  cases blanks with
  | nil => exact h
  | cons b more =>
    rintro _ _ ⟨⟩
    have hb := hBlanks b List.mem_cons_self
    simp only [isBlank, Bool.or_eq_true, beq_iff_eq] at hb
    rcases hb with ((rfl | rfl) | rfl) | rfl <;> decide

theorem ends_cons {b : UInt8} (h : isDigit b = false ∧ b ≠ 0x2E ∧ b ≠ 0x65 ∧ b ≠ 0x45)
    (rest : List UInt8) : Ends (b :: rest) := by
  rintro _ _ ⟨⟩
  exact h

theorem ends_nil : Ends [] := nofun

theorem WritesItems.ends {items : List Json} {text rest : List UInt8}
    (h : WritesItems false items text) : Ends (text ++ 0x5D :: rest) := by
  cases h with
  | nil hBlanks => exact ends_of_blanks hBlanks (ends_cons (by decide) rest)
  | cons hSeparator _ _ =>
    cases hSeparator with
    | comma hBefore _ =>
      rw [List.append_assoc, List.append_assoc]
      exact ends_of_blanks hBefore (ends_cons (by decide) _)

theorem WritesFields.ends {fields : List (String × Json)} {text rest : List UInt8}
    (h : WritesFields false fields text) : Ends (text ++ 0x7D :: rest) := by
  cases h with
  | nil hBlanks => exact ends_of_blanks hBlanks (ends_cons (by decide) rest)
  | cons hSeparator _ _ _ _ =>
    cases hSeparator with
    | comma hBefore _ =>
      rw [List.append_assoc, List.append_assoc]
      exact ends_of_blanks hBefore (ends_cons (by decide) _)

/-! ## Scalars -/

theorem Decoder.atValue_eq {c : Cursor} {b : UInt8} {more : List UInt8}
    (h : c.skipBlanks.rest = b :: more) : atValue c = .ok (b, c.skipBlanks) := by
  simp only [atValue, Cursor.peek_of_cons h]

theorem takes_string (expected : String) (depth : Nat) (s : String) :
    Takes (Decoder.string expected) depth (.string s) s := by
  rintro _ ⟨⟩
  rw [encode_quoted]
  refine ⟨⟨_, _, rfl, by decide, by decide, by decide⟩, fun c rest hc hEnds => ?_⟩
  obtain ⟨c', hBody, hRest⟩ := stringBody_reads (encode_quoted s ▸ hc)
  refine ⟨c', ?_, hRest⟩
  simp only [Decoder.string, Decoder.atValue_eq hc, bind, Except.bind]
  exact hBody

theorem takes_bool (depth : Nat) (b : Bool) : Takes Decoder.bool depth (.bool b) b := by
  rintro _ ⟨⟩
  cases b with
  | true =>
    refine ⟨⟨0x74, _, rfl, by decide, by decide, by decide⟩, fun c rest hc hEnds => ?_⟩
    obtain ⟨c', hWord, hRest⟩ := word_reads [0x72, 0x75, 0x65] (Cursor.advance_rest hc)
    refine ⟨c', ?_, hRest⟩
    simp only [Decoder.bool, Decoder.atValue_eq hc, bind, Except.bind, hWord]
    rfl
  | false =>
    refine ⟨⟨0x66, _, rfl, by decide, by decide, by decide⟩, fun c rest hc hEnds => ?_⟩
    obtain ⟨c', hWord, hRest⟩ := word_reads [0x61, 0x6C, 0x73, 0x65] (Cursor.advance_rest hc)
    refine ⟨c', ?_, hRest⟩
    simp only [Decoder.bool, Decoder.atValue_eq hc, bind, Except.bind, hWord]
    rfl

theorem opens_of_isDigit {b : UInt8} (h : isDigit b = true) : Opens b := by
  refine ⟨?_, ?_, ?_⟩
  · by_contra hBlank
    rw [Bool.not_eq_false] at hBlank
    simp only [isBlank, Bool.or_eq_true, beq_iff_eq] at hBlank
    rcases hBlank with ((rfl | rfl) | rfl) | rfl <;> exact absurd h (by decide)
  · rintro rfl
    exact absurd h (by decide)
  · rintro rfl
    exact absurd h (by decide)

theorem takes_natural (bits : Nat) (hBits : bits ≤ 64) {n : Nat} (hn : n < 2 ^ bits)
    (expected : String) (depth : Nat) :
    Takes (Decoder.natural bits expected) depth (.number (.natural n)) n := by
  rintro _ ⟨⟩
  change Reads _ (Utf8.encode (toString n)) n
  rw [encode_toString]
  have hGreatest : n ≤ greatestNatural :=
    Nat.le_sub_one_of_lt (lt_of_lt_of_le hn (Nat.pow_le_pow_right (by decide) hBits))
  cases hDecimal : decimal n with
  | nil => exact absurd hDecimal (decimal_ne_nil n)
  | cons b more =>
    have hDigit : isDigit b = true := isDigit_of_mem_decimal (hDecimal ▸ List.mem_cons_self)
    refine ⟨⟨b, more, rfl, opens_of_isDigit hDigit⟩, fun c rest hc hEnds => ?_⟩
    obtain ⟨c', hNumber, hRest⟩ := numberAfterSign_reads hGreatest (hDecimal ▸ hc) hEnds
    have hUnsigned : b ≠ 0x2D := by
      rintro rfl
      exact absurd hDigit (by decide)
    refine ⟨c', ?_, hRest⟩
    simp only [Decoder.natural, Decoder.atValue_eq hc, bind, Except.bind, hDigit, Bool.or_true,
      if_true, beq_false_of_ne hUnsigned, Bool.false_eq_true, if_false, hNumber]
    exact if_pos hn

/-- What is made of a value that is read. -/
theorem Takes.map {β : Type} {decoder : Decoder α} {depth : Nat} {v : Json} {a : α}
    (h : Takes decoder depth v a) (f : α → β) :
    Takes (fun depth c => do
      let (x, c) ← decoder depth c
      return (f x, c)) depth v (f a) := by
  intro text hText
  obtain ⟨hOpens, hResult⟩ := h text hText
  refine ⟨hOpens, fun c rest hc hEnds => ?_⟩
  obtain ⟨c', hRead, hRest⟩ := hResult hc hEnds
  refine ⟨c', ?_, hRest⟩
  simp only [hRead, bind, Except.bind]
  rfl

theorem takes_u32 (depth : Nat) (n : UInt32) :
    Takes Decoder.u32 depth (.number (.natural n.toNat)) n := by
  have h := (takes_natural 32 (by decide) n.toNat_lt "u32" depth).map UInt32.ofNat
  rwa [UInt32.ofNat_toNat] at h

theorem takes_u64 (depth : Nat) (n : UInt64) :
    Takes Decoder.u64 depth (.number (.natural n.toNat)) n := by
  have h := (takes_natural 64 (by decide) n.toNat_lt "u64" depth).map UInt64.ofNat
  rwa [UInt64.ofNat_toNat] at h

theorem takes_option {decoder : Decoder α} {depth : Nat} {v : Json} {a : α}
    (h : Takes decoder depth v a) : Takes (Decoder.option decoder) depth v (some a) := by
  intro text hText
  obtain ⟨⟨b, more, rfl, hOpens⟩, hResult⟩ := h text hText
  refine ⟨⟨b, more, rfl, hOpens⟩, fun c rest hc hEnds => ?_⟩
  obtain ⟨c', hValue, hRest⟩ :=
    hResult (Cursor.skipBlanks_rest_of_cons hc hOpens.notBlank) hEnds
  refine ⟨c', ?_, hRest⟩
  unfold Decoder.option
  simp only [Cursor.peek_of_cons hc, hValue]
  split
  · next hNull => exact absurd (Option.some.inj hNull) hOpens.notNull
  · rfl

/-! ## Lists -/

section

variable {c : Cursor} {text rest : List UInt8}

/-- The closing bracket of an array, after blanks. -/
theorem Decoder.moreItems_end (first : Bool) (hText : Blanks text)
    (hc : c.rest = text ++ 0x5D :: rest) :
    ∃ c', moreItems first c = .ok (false, c') ∧ c'.rest = 0x5D :: rest := by
  have hRest := Cursor.skipBlanks_rest_of_blanks hc hText (by decide)
  refine ⟨c.skipBlanks, ?_, hRest⟩
  simp only [moreItems, Cursor.peek_of_cons hRest]

/-- An item, after what separates it from the one before it. -/
theorem Decoder.moreItems_item {first : Bool} {b : UInt8} (hText : Separator first text)
    (hb : Opens b) (hc : c.rest = text ++ b :: rest) :
    ∃ c', moreItems first c = .ok (true, c') ∧ c'.rest = b :: rest := by
  cases hText with
  | first hBlanks =>
    have hRest := Cursor.skipBlanks_rest_of_blanks hc hBlanks hb.notBlank
    refine ⟨c.skipBlanks, ?_, hRest⟩
    simp only [moreItems, Cursor.peek_of_cons hRest]
    split
    · next hEnd => cases hEnd
    · next hEnd => exact absurd (Option.some.inj hEnd) hb.notBracket
    · rfl
    · rfl
  | comma hBefore hAfter =>
    rw [List.append_assoc] at hc
    have hComma := Cursor.skipBlanks_rest_of_blanks hc hBefore (by decide)
    have hRest := Cursor.skipBlanks_rest_of_blanks (Cursor.advance_rest hComma) hAfter hb.notBlank
    refine ⟨c.skipBlanks.advance.skipBlanks, ?_, hRest⟩
    simp only [moreItems, Cursor.peek_of_cons hComma, Cursor.peek_of_cons hRest,
      Bool.false_eq_true, if_false]
    split
    · next hEnd => cases hEnd
    · next hEnd => exact absurd (Option.some.inj hEnd) hb.notBracket
    · rfl

end

theorem Decoder.closeArray_reads {c : Cursor} {rest : List UInt8} (hc : c.rest = 0x5D :: rest) :
    ∃ c', closeArray c = .ok c' ∧ c'.rest = rest := by
  have hRest := Cursor.skipBlanks_rest_of_cons hc (by decide)
  refine ⟨c.skipBlanks.advance, ?_, Cursor.advance_rest hRest⟩
  simp only [closeArray, Cursor.peek_of_cons hRest]

variable {item : Decoder α} {depth : Nat}

/-- Every item has an octet of its own, so the octets are enough for the items. -/
theorem WritesItems.length_le {first : Bool} {vs : List Json} {text : List UInt8}
    (hText : WritesItems first vs text) {values : List α}
    (hItems : List.Forall₂ (Takes item depth) vs values) : vs.length ≤ text.length := by
  induction hItems generalizing first text with
  | nil => exact Nat.zero_le _
  | cons hItem _ ih =>
    cases hText with
    | cons _ hValue hMore =>
      obtain ⟨b, more, rfl, -⟩ := (hItem _ hValue).opens
      have hRest := ih hMore
      simp only [List.length_cons, List.length_append]
      omega

theorem Decoder.items_reads {vs : List Json} {values : List α}
    (hItems : List.Forall₂ (Takes item depth) vs values) :
    ∀ {first : Bool} {text : List UInt8}, WritesItems first vs text →
      ∀ {fuel : Nat} {c : Cursor} {rest : List UInt8}, vs.length < fuel →
        c.rest = text ++ 0x5D :: rest →
        ∃ c', items item depth fuel first c = .ok (values, c') ∧ c'.rest = 0x5D :: rest := by
  induction hItems with
  | nil =>
    rintro first text ⟨⟩ (_ | fuel) c rest hFuel hc
    · cases hFuel
    · rename_i hBlanks
      obtain ⟨c', hMore, hRest⟩ := moreItems_end first hBlanks hc
      refine ⟨c', ?_, hRest⟩
      simp only [items, hMore, bind, Except.bind]
      rfl
  | @cons v a vs values hItem _ ih =>
    intro first text hText fuel c rest hFuel hc
    cases fuel with
    | zero => cases hFuel
    | succ fuel =>
      cases hText with
      | @cons _ _ _ separator itemText more hSeparator hValue hMore =>
        have hReads := hItem itemText hValue
        obtain ⟨b, inner, rfl, hOpens⟩ := hReads.opens
        rw [List.append_assoc, List.append_assoc, List.cons_append] at hc
        obtain ⟨c₁, hFirst, hc₁⟩ := moreItems_item hSeparator hOpens hc
        obtain ⟨c₂, hRead, hc₂⟩ := hReads.after_blanks blanks_nil hc₁ hMore.ends
        obtain ⟨c₃, hRest, hc₃⟩ := ih hMore (Nat.lt_of_succ_lt_succ hFuel) hc₂
        refine ⟨c₃, ?_, hc₃⟩
        simp only [items, hFirst, hRead, hRest, bind, Except.bind, if_true]
        rfl

theorem takes_list {vs : List Json} {values : List α}
    (hItems : List.Forall₂ (Takes item (depth + 1)) vs values) :
    Takes (Decoder.list item) (depth + 2) (.array vs) values := by
  rintro _ ⟨⟩
  rename_i inner hInner
  refine ⟨⟨0x5B, _, rfl, by decide, by decide, by decide⟩, fun c rest hc hEnds => ?_⟩
  have hOpened : c.skipBlanks.advance.rest = inner ++ 0x5D :: rest := by
    rw [Cursor.advance_rest (List.cons_append ▸ hc), List.append_assoc, List.singleton_append]
  have hFuel : vs.length < c.skipBlanks.advance.rest.length + 1 := by
    have hLength := hInner.length_le hItems
    rw [hOpened, List.length_append]
    omega
  obtain ⟨c₁, hRead, hc₁⟩ := Decoder.items_reads hItems hInner hFuel hOpened
  obtain ⟨c₂, hClose, hc₂⟩ := Decoder.closeArray_reads hc₁
  refine ⟨c₂, ?_, hc₂⟩
  simp only [Decoder.list, Decoder.atValue_eq hc, Decoder.deeper, hRead, hClose, bind, Except.bind]
  rfl

theorem takes_list_map {toJson : α → Json} (h : ∀ a, Takes item (depth + 1) (toJson a) a)
    (values : List α) :
    Takes (Decoder.list item) (depth + 2) (.array (values.map toJson)) values :=
  takes_list (List.forall₂_map_left_iff.mpr (List.forall₂_same.mpr fun a _ => h a))

/-! ## Whole texts -/

theorem Decoder.run_takes {decoder : Decoder α} {v : Json} {a : α} {text after : List UInt8}
    (hTakes : Takes decoder depthLimit v a) (hText : Writes v text) (hAfter : Blanks after) :
    run decoder (text ++ after) = .ok a := by
  have hEnds : Ends after := List.append_nil after ▸ ends_of_blanks hAfter ends_nil
  obtain ⟨c, hRead, hc⟩ := (hTakes text hText).after_blanks blanks_nil
    (c := Cursor.start (text ++ after)) rfl hEnds
  have hNothing : c.skipBlanks.rest = [] := by
    rw [Cursor.skipBlanks_rest, hc, List.dropWhile_eq_nil_iff]
    exact hAfter
  have hPeek : c.skipBlanks.peek = none := by
    rw [Cursor.peek, hNothing]
    rfl
  simp only [run, hRead, bind, Except.bind, hPeek]
  rfl

end BindingCoverage.Json
