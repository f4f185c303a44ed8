import Mathlib
import BindingCoverage.Xml.Entity

/-!
# Attributes that can be read

A tag is `Readable` when its attributes follow the syntax to the end of the tag, no key stands there
twice, and every value is UTF-8 whose references stand for characters. `Tag.text?` is the text of
an attribute then.

* `attributes_distinct`: the reader of attributes never hands out a key twice, whether or not it
  gets to the end of the tag.
* `attributes_of_fuel`: the reader of attributes never stops early.
-/

namespace BindingCoverage.Xml

/-- The text of the attribute with this key, if there is one and its value can be decoded. -/
def Tag.text? (t : Tag) (key : String) : Option String :=
  (t.attributes.read.find? (·.key == Utf8.encode key)).bind (·.text.toOption)

structure Tag.Readable (t : Tag) : Prop where
  wellFormed : t.attributes.error = none
  distinct : (t.attributes.read.map Attribute.key).Nodup
  decodes : ∀ a ∈ t.attributes.read,
    ∃ raw text, Utf8.decode a.value = .ok raw ∧ unescape raw = .ok text

theorem Attribute.text_eq_ok_iff {a : Attribute} {text : String} :
    a.text = .ok text ↔ ∃ raw, Utf8.decode a.value = .ok raw ∧ unescape raw = .ok text := by
  unfold Attribute.text
  cases Utf8.decode a.value with
  | error e => simp
  | ok raw => cases h : unescape raw <;> simp [Except.mapError, h]

/-! ## Keys -/

theorem TagCursor.next_unseen {seen : List (List UInt8 × Nat)} {c after : TagCursor}
    {offset : Nat} {a : Attribute} (h : c.next seen = .ok (some (offset, a, after))) :
    ∀ k ∈ seen, k.1 ≠ a.key := by
  unfold TagCursor.next at h
  simp only [bind, Except.bind, pure, Except.pure] at h
  split at h
  · cases h
  · split at h
    · cases h
    · split at h
      · cases h
      · rename_i hfind
        split at h
        · cases h
        · cases h
          intro k hk
          simpa using List.find?_eq_none.mp hfind k hk

theorem attributesFrom_keys (fuel : Nat) :
    ∀ (seen : List (List UInt8 × Nat)) (c : TagCursor),
      ((attributesFrom seen c fuel).read.map Attribute.key).Nodup ∧
      ∀ a ∈ (attributesFrom seen c fuel).read, ∀ k ∈ seen, k.1 ≠ a.key := by
  induction fuel with
  | zero => intro seen c; simp [attributesFrom]
  | succ fuel ih =>
    intro seen c
    unfold attributesFrom
    split
    · simp
    · simp
    · rename_i offset a after hnext
      have hunseen := TagCursor.next_unseen hnext
      obtain ⟨hnodup, hnew⟩ := ih ((a.key, offset) :: seen) after
      constructor
      · rw [List.map_cons, List.nodup_cons]
        refine ⟨?_, hnodup⟩
        intro hmem
        obtain ⟨b, hb, hkey⟩ := List.mem_map.mp hmem
        exact hnew b hb (a.key, offset) List.mem_cons_self hkey.symm
      · intro b hb k hk
        rcases List.mem_cons.mp hb with rfl | hb
        · exact hunseen k hk
        · exact hnew b hb k (List.mem_cons_of_mem _ hk)

theorem Tag.attributes_distinct (t : Tag) : (t.attributes.read.map Attribute.key).Nodup :=
  (attributesFrom_keys _ _ _).1

theorem Tag.readable_iff {t : Tag} :
    t.Readable ↔
      t.attributes.error = none ∧ ∀ a ∈ t.attributes.read, ∃ text, a.text = .ok text := by
  constructor
  · intro h
    refine ⟨h.wellFormed, fun a ha => ?_⟩
    obtain ⟨raw, text, hraw, htext⟩ := h.decodes a ha
    exact ⟨text, Attribute.text_eq_ok_iff.mpr ⟨raw, hraw, htext⟩⟩
  · rintro ⟨herror, htexts⟩
    refine ⟨herror, t.attributes_distinct, fun a ha => ?_⟩
    obtain ⟨text, htext⟩ := htexts a ha
    obtain ⟨raw, hraw, h⟩ := Attribute.text_eq_ok_iff.mp htext
    exact ⟨raw, text, hraw, h⟩

/-! ## Getting to the end of a tag -/

namespace TagCursor

theorem upTo_length (p : UInt8 → Bool) (c : TagCursor) :
    (c.upTo p).2.rest.length ≤ c.rest.length := by
  simp only [upTo, List.length_drop]
  omega

theorem skipBlanks_length (c : TagCursor) : c.skipBlanks.rest.length ≤ c.rest.length :=
  upTo_length _ c

theorem key_length {c after : TagCursor} {k : List UInt8} (h : c.key = .ok (k, after)) :
    after.rest.length < c.rest.length := by
  unfold TagCursor.key at h
  cases hrest : c.rest with
  | nil => rw [hrest] at h; cases h
  | cons first rest =>
    rw [hrest] at h
    dsimp only at h
    split at h
    · cases h
      have hkey := upTo_length (fun b => b == 0x3D || isBlank b) ⟨c.offset + 1, rest⟩
      have hblanks := skipBlanks_length
        (upTo (fun b => b == 0x3D || isBlank b) ⟨c.offset + 1, rest⟩).2
      dsimp only at hkey
      rw [List.length_cons]
      omega
    · cases h

theorem value_length {c after : TagCursor} {v : List UInt8} (h : c.value = .ok (v, after)) :
    after.rest.length ≤ c.rest.length := by
  have hblanks := skipBlanks_length c
  unfold TagCursor.value at h
  dsimp only at h
  split at h
  · cases h
  · rename_i quote rest hrest
    rw [hrest, List.length_cons] at hblanks
    split at h
    · have htext := upTo_length (· == quote) ⟨c.skipBlanks.offset + 1, rest⟩
      split at h
      · cases h
      · rename_i hafter
        cases h
        rw [hafter, List.length_cons] at htext
        dsimp only at htext ⊢
        omega
    · cases h

/-- An attribute is at least one octet long. -/
theorem next_length {seen : List (List UInt8 × Nat)} {c after : TagCursor} {offset : Nat}
    {a : Attribute} (h : c.next seen = .ok (some (offset, a, after))) :
    after.rest.length < c.rest.length := by
  have hblanks := skipBlanks_length c
  unfold TagCursor.next at h
  simp only [bind, Except.bind, pure, Except.pure] at h
  split at h
  · cases h
  · split at h
    · cases h
    · rename_i k hk
      have hkey := key_length (k := k.1) hk
      split at h
      · cases h
      · split at h
        · cases h
        · rename_i v hv
          cases h
          have hvalue := value_length (v := v.1) hv
          simp only [List.length_drop] at hvalue
          omega

end TagCursor

theorem attributesFrom_of_fuel (n : Nat) :
    ∀ {m : Nat} (seen : List (List UInt8 × Nat)) (c : TagCursor), c.rest.length < n →
      c.rest.length < m → attributesFrom seen c n = attributesFrom seen c m := by
  induction n with
  | zero => intro m seen c hn _; cases hn
  | succ n ih =>
    intro m seen c hn hm
    obtain ⟨m, rfl⟩ : ∃ k, m = k + 1 := ⟨m - 1, by omega⟩
    unfold attributesFrom
    cases hnext : c.next seen with
    | error e => rfl
    | ok next =>
      cases next with
      | none => rfl
      | some next =>
        obtain ⟨offset, a, after⟩ := next
        have hlength := TagCursor.next_length hnext
        simp only [ih ((a.key, offset) :: seen) after (by omega) (by omega : _ < m)]

theorem Tag.attributes_of_fuel (t : Tag) {n : Nat} (h : t.content.length < n) :
    attributesFrom [] ⟨t.name.length, t.content.drop t.name.length⟩ n = t.attributes := by
  refine attributesFrom_of_fuel n [] _ ?_ ?_
  · simp only [List.length_drop]
    omega
  · simp only [List.length_drop]
    omega

end BindingCoverage.Xml
