import BindingCoverage.Declaration.Json
import BindingCoverage.Proofs.Json.Decoding

/-!
# Reading records from any layout

`Assigns depth known value fields value'` says that `fields` has values for some of the known
fields, in their order and for the required ones at least, and that they lead from `value` to
`value'`.

* `Assigns.optional`, `Assigns.default`, `Assigns.list`: what is left out when it is written is as
  it was at the beginning.
* `Record.takes`: a record is read from an object with values for its fields.
-/

namespace BindingCoverage.Json

variable {α : Type}

/-! ## Between fields -/

section

variable {c : Cursor} {text rest : List UInt8}

/-- The closing brace of an object, after blanks. -/
theorem Decoder.moreFields_end (first : Bool) (hText : Blanks text)
    (hc : c.rest = text ++ 0x7D :: rest) :
    ∃ c', moreFields first c = .ok (false, c') ∧ c'.rest = 0x7D :: rest := by
  have hRest := Cursor.skipBlanks_rest_of_blanks hc hText (by decide)
  refine ⟨c.skipBlanks, ?_, hRest⟩
  simp only [moreFields, Cursor.peek_of_cons hRest]

/-- The quotation mark of a key, after what separates the field from the one before it. -/
theorem Decoder.moreFields_key {first : Bool} (hText : Separator first text)
    (hc : c.rest = text ++ 0x22 :: rest) :
    ∃ c', moreFields first c = .ok (true, c') ∧ c'.rest = 0x22 :: rest := by
  cases hText with
  | first hBlanks =>
    have hRest := Cursor.skipBlanks_rest_of_blanks hc hBlanks (by decide)
    refine ⟨c.skipBlanks, ?_, hRest⟩
    simp only [moreFields, Cursor.peek_of_cons hRest]
    rfl
  | comma hBefore hAfter =>
    rw [List.append_assoc] at hc
    have hComma := Cursor.skipBlanks_rest_of_blanks hc hBefore (by decide)
    have hRest := Cursor.skipBlanks_rest_of_blanks (Cursor.advance_rest hComma) hAfter (by decide)
    refine ⟨c.skipBlanks.advance.skipBlanks, ?_, hRest⟩
    simp only [moreFields, Cursor.peek_of_cons hComma, Cursor.peek_of_cons hRest]
    rfl

theorem Decoder.colon_reads (hText : Blanks text) (hc : c.rest = text ++ 0x3A :: rest) :
    ∃ c', colon c = .ok c' ∧ c'.rest = rest := by
  have hRest := Cursor.skipBlanks_rest_of_blanks hc hText (by decide)
  refine ⟨c.skipBlanks.advance, ?_, Cursor.advance_rest hRest⟩
  simp only [colon, Cursor.peek_of_cons hRest]

theorem Decoder.objectEnd_rest (hc : c.rest = 0x7D :: rest) : (objectEnd c).rest = rest := by
  have hRest := Cursor.skipBlanks_rest_of_cons hc (by decide)
  simp only [objectEnd, Cursor.peek_of_cons hRest]
  exact Cursor.advance_rest hRest

end

/-! ## Fields and records -/

variable {ρ : Type} {depth : Nat}

/-- Some of the known fields have values, which are taken into the record one after the other. -/
inductive Assigns (depth : Nat) : List (Field ρ) → ρ → List (String × Json) → ρ → Prop where
  | nil {value : ρ} : Assigns depth [] value [] value
  | skip {field : Field ρ} {known : List (Field ρ)} {value value' : ρ}
      {fields : List (String × Json)} : field.required = false →
      Assigns depth known value fields value' → Assigns depth (field :: known) value fields value'
  | take {field : Field ρ} {known : List (Field ρ)} {value value' value'' : ρ} {v : Json}
      {fields : List (String × Json)} : Takes (field.read value) depth v value' →
      Assigns depth known value' fields value'' →
      Assigns depth (field :: known) value ((field.key, v) :: fields) value''

namespace Assigns

variable {key : String} {toJson : α → Json} {known : List (Field ρ)} {value value' : ρ}
  {fields : List (String × Json)}

/-- A field that is written if there is something to write. -/
theorem optional {decoder : Decoder α} (set : ρ → Option α → ρ) {x : Option α}
    (hTakes : ∀ a, Takes decoder depth (toJson a) a) (hNone : set value none = value)
    (h : Assigns depth known (set value x) fields value') :
    Assigns depth
      (⟨key, false, fun value depth c => do
        let (x, c) ← Decoder.option decoder depth c
        return (set value x, c)⟩ :: known)
      value (Json.optionalField key (x.map toJson) ++ fields) value' := by
  cases x with
  | none =>
    rw [hNone] at h
    exact .skip rfl h
  | some a => exact .take ((takes_option (hTakes a)).map (set value)) h

/-- A field that is known only if it is written, and has a default. -/
theorem default {decoder : Decoder α} (set : ρ → α → ρ) {x : Option α} {a₀ : α}
    (hTakes : ∀ a, Takes decoder depth (toJson a) a) (hDefault : set value a₀ = value)
    (h : Assigns depth known (set value (x.getD a₀)) fields value') :
    Assigns depth
      (⟨key, false, fun value depth c => do
        let (a, c) ← decoder depth c
        return (set value a, c)⟩ :: known)
      value (Json.optionalField key (x.map toJson) ++ fields) value' := by
  cases x with
  | none =>
    rw [Option.getD_none, hDefault] at h
    exact .skip rfl h
  | some a => exact .take ((hTakes a).map (set value)) h

/-- A field with a list that is written if it has items. -/
theorem list {item : Decoder α} (set : ρ → List α → ρ) {xs : List α}
    (hTakes : ∀ a, Takes item (depth + 1) (toJson a) a) (hNone : set value [] = value)
    (h : Assigns (depth + 2) known (set value xs) fields value') :
    Assigns (depth + 2)
      (⟨key, false, fun value depth c => do
        let (x, c) ← Decoder.list item depth c
        return (set value x, c)⟩ :: known)
      value ((if xs.isEmpty then [] else [(key, .array (xs.map toJson))]) ++ fields) value' := by
  cases xs with
  | nil =>
    rw [hNone] at h
    exact .skip rfl h
  | cons a rest => exact .take ((takes_list_map hTakes (a :: rest)).map (set value)) h

end Assigns

namespace Record

variable {r : Record ρ}

theorem objectFields_reads {known : List (Field ρ)} {value value' : ρ}
    {fields : List (String × Json)} (hAssigns : Assigns depth known value fields value')
    (hKnown : ∀ f ∈ known, r.fields.find? (·.key == f.key) = some f)
    (hNodup : (known.map (·.key)).Nodup) :
    ∀ {first : Bool} {text : List UInt8}, WritesFields first fields text →
      ∀ {fuel : Nat} {seen : List String} {c : Cursor} {rest : List UInt8}, fields.length < fuel →
        (∀ f ∈ known, f.key ∉ seen) → c.rest = text ++ 0x7D :: rest →
        ∃ seen' c', r.objectFields depth fuel first seen value c = .ok (seen', value', c') ∧
          c'.rest = 0x7D :: rest ∧ seen ⊆ seen' ∧
          ∀ f ∈ known, f.required = true → f.key ∈ seen' := by
  induction hAssigns with
  | nil =>
    rintro first text ⟨⟩ (_ | fuel) seen c rest hFuel hSeen hc
    · cases hFuel
    · rename_i hBlanks
      obtain ⟨c', hMore, hRest⟩ := Decoder.moreFields_end first hBlanks hc
      refine ⟨seen, c', ?_, hRest, List.Subset.refl seen, nofun⟩
      simp only [objectFields, hMore, bind, Except.bind]
      rfl
  | skip hOptional _ ih =>
    intro first text hText fuel seen c rest hFuel hSeen hc
    obtain ⟨-, hKnown⟩ := List.forall_mem_cons.mp hKnown
    obtain ⟨seen', c', hRead, hc', hKept, hRequired⟩ :=
      ih hKnown (List.nodup_cons.mp hNodup).2 hText hFuel (List.forall_mem_cons.mp hSeen).2 hc
    refine ⟨seen', c', hRead, hc', hKept, List.forall_mem_cons.mpr ⟨?_, hRequired⟩⟩
    intro hNeeded
    rw [hOptional] at hNeeded
    cases hNeeded
  | @take field known value value₁ value₂ v fields hTakes _ ih =>
    intro first text hText fuel seen c rest hFuel hSeen hc
    cases fuel with
    | zero => cases hFuel
    | succ fuel =>
      cases hText with
      | @cons _ _ _ _ _ _ _ valueText _ hSeparator hBefore hAfter hValue hMore =>
        obtain ⟨hField, hKnown⟩ := List.forall_mem_cons.mp hKnown
        obtain ⟨hNew, hNodup⟩ := List.nodup_cons.mp hNodup
        obtain ⟨hUnseen, hSeen⟩ := List.forall_mem_cons.mp hSeen
        have hContains : seen.contains field.key = false := by
          rwa [List.contains_eq_mem, decide_eq_false_iff_not]
        have hSeen' : ∀ f ∈ known, f.key ∉ field.key :: seen := by
          intro f hf
          rw [List.mem_cons, not_or]
          exact ⟨fun hSame => hNew (List.mem_map.mpr ⟨f, hf, hSame⟩), hSeen f hf⟩
        obtain ⟨inside, hKey⟩ : ∃ inside, Utf8.encode (quoted field.key) = 0x22 :: inside :=
          ⟨_, encode_quoted field.key⟩
        simp only [List.append_assoc, List.cons_append, hKey] at hc
        obtain ⟨c₁, hFirst, hc₁⟩ := Decoder.moreFields_key hSeparator hc
        rw [← List.cons_append, ← hKey] at hc₁
        obtain ⟨c₂, hName, hc₂⟩ := stringBody_reads hc₁
        obtain ⟨c₃, hColon, hc₃⟩ := Decoder.colon_reads hBefore hc₂
        obtain ⟨c₄, hRead, hc₄⟩ := (hTakes valueText hValue).after_blanks hAfter hc₃ hMore.ends
        obtain ⟨seen', c₅, hRest, hc₅, hKept, hRequired⟩ :=
          ih hKnown hNodup hMore (Nat.lt_of_succ_lt_succ hFuel) hSeen' hc₄
        obtain ⟨hThis, hKept⟩ := List.cons_subset.mp hKept
        refine ⟨seen', c₅, ?_, hc₅, hKept, List.forall_mem_cons.mpr ⟨fun _ => hThis, hRequired⟩⟩
        simp only [objectFields, hFirst, hName, hField, hContains, hColon, hRead, hRest, bind,
          Except.bind, if_true, Bool.false_eq_true, if_false]

/-- With distinct keys, every field is found by its key. -/
theorem find?_key {fields : List (Field ρ)} (hNodup : (fields.map (·.key)).Nodup) :
    ∀ f ∈ fields, fields.find? (·.key == f.key) = some f := by
  induction fields with
  | nil => nofun
  | cons g rest ih =>
    obtain ⟨hNew, hNodup⟩ := List.nodup_cons.mp hNodup
    refine List.forall_mem_cons.mpr ⟨?_, fun f hf => ?_⟩
    · exact List.find?_cons_of_pos (beq_self_eq_true g.key)
    · have hOther : g.key ≠ f.key := fun hSame => hNew (List.mem_map.mpr ⟨f, hf, hSame.symm⟩)
      rw [List.find?_cons, beq_false_of_ne hOther]
      exact ih hNodup f hf

/-- A record is read from an object with values for its fields. -/
theorem takes (hNodup : (r.fields.map (·.key)).Nodup) {fields : List (String × Json)} {value : ρ}
    (hAssigns : Assigns (depth + 1) r.fields r.initial fields value) :
    Takes r.decoder (depth + 2) (.object fields) value := by
  rintro _ ⟨⟩
  rename_i inner hInner
  refine ⟨⟨0x7B, _, rfl, by decide, by decide, by decide⟩, fun c rest hc hEnds => ?_⟩
  have hOpened : c.skipBlanks.advance.rest = inner ++ 0x7D :: rest := by
    rw [Cursor.advance_rest (List.cons_append ▸ hc), List.append_assoc, List.singleton_append]
  have hFuel : fields.length < c.skipBlanks.advance.rest.length + 1 := by
    have hLength := hInner.length_le
    rw [hOpened, List.length_append]
    omega
  obtain ⟨seen, c₁, hRead, hc₁, -, hRequired⟩ := objectFields_reads hAssigns (find?_key hNodup)
    hNodup hInner hFuel (fun _ _ => List.not_mem_nil) hOpened
  have hComplete : r.fields.find? (fun f => f.required && !seen.contains f.key) = none := by
    rw [List.find?_eq_none]
    intro f hf hMissing
    simp only [Bool.and_eq_true, Bool.not_eq_true', List.contains_eq_mem,
      decide_eq_false_iff_not] at hMissing
    exact hMissing.2 (hRequired f hf hMissing.1)
  refine ⟨Decoder.objectEnd c₁, ?_, Decoder.objectEnd_rest hc₁⟩
  simp only [decoder, Decoder.atValue_eq hc, Decoder.deeper, hRead, bind, Except.bind]
  rw [hComplete]
  rfl

end Record

end BindingCoverage.Json
