import Mathlib
import BindingCoverage.Text.Utf8

/-!
# Decoding what was encoded

* `decode_encode`: the octets of a text decode to that text.
* `mem_encode_of_lt`: octets below 0x80 stand for characters of their own, and for nothing else.
* `lossy_eq_iff`: a text in which nothing was replaced is the lossy text of its own octets only.
-/

namespace BindingCoverage.Utf8

theorem encode_eq (s : String) : encode s = s.toList.flatMap String.utf8EncodeChar := by
  rw [encode, ← String.utf8Encode_toList, List.utf8Encode, List.data_toByteArray]

theorem encode_append (s t : String) : encode (s ++ t) = encode s ++ encode t := by
  rw [encode_eq, encode_eq, encode_eq, String.toList_append, List.flatMap_append]

/-! ## Octets of one character -/

/-- The value of the first octet of a character that has three octets. -/
theorem lead_three : ∀ n < 16, lead (UInt8.ofNat (n + 0xE0)) =
    .more ⟨1, 1, n, if n = 0 then 0xA0 else 0x80, if n = 13 then 0x9F else 0xBF⟩ := by decide

theorem lead_four : ∀ n < 5, lead (UInt8.ofNat (n + 0xF0)) =
    .more ⟨1, 2, n, if n = 0 then 0x90 else 0x80, if n = 4 then 0x8F else 0xBF⟩ := by decide

theorem lead_two : ∀ n < 32, 2 ≤ n →
    lead (UInt8.ofNat (n + 0xC0)) = .more ⟨1, 0, n, 0x80, 0xBF⟩ := by decide

theorem lead_one : ∀ n < 128, lead (UInt8.ofNat n) = .char (Char.ofNat n) := by decide

theorem next_last {read bits n : Nat} {low high : UInt8} (hn : n < 64)
    (hlow : low.toNat ≤ n + 0x80) (hhigh : n + 0x80 ≤ high.toNat) :
    Pending.next ⟨read, 0, bits, low, high⟩ (UInt8.ofNat (n + 0x80)) =
      .char (Char.ofNat (bits * 64 + n)) := by
  have hvalue : (UInt8.ofNat (n + 0x80)).toNat = n + 0x80 := by
    rw [UInt8.toNat_ofNat']
    omega
  have hbits : (n + 0x80) % 64 = n := by omega
  unfold Pending.next
  rw [if_pos (by simp only [UInt8.le_iff_toNat_le, hvalue]; exact ⟨hlow, hhigh⟩), hvalue, hbits]

theorem next_more {read owed bits n : Nat} {low high : UInt8} (hn : n < 64)
    (hlow : low.toNat ≤ n + 0x80) (hhigh : n + 0x80 ≤ high.toNat) :
    Pending.next ⟨read, owed + 1, bits, low, high⟩ (UInt8.ofNat (n + 0x80)) =
      .more ⟨read + 1, owed, bits * 64 + n, 0x80, 0xBF⟩ := by
  have hvalue : (UInt8.ofNat (n + 0x80)).toNat = n + 0x80 := by
    rw [UInt8.toNat_ofNat']
    omega
  have hbits : (n + 0x80) % 64 = n := by omega
  unfold Pending.next
  rw [if_pos (by simp only [UInt8.le_iff_toNat_le, hvalue]; exact ⟨hlow, hhigh⟩), hvalue, hbits]

section

variable {v : Nat} (index : Nat) (rest : List UInt8)

theorem decodeFrom_two (hlow : 0x80 ≤ v) (hhigh : v < 0x800) :
    decodeFrom index none (UInt8.ofNat (v / 64 % 32 + 0xC0) ::
        UInt8.ofNat (v % 64 + 0x80) :: rest) =
      (Char.ofNat v :: ·) <$> decodeFrom (index + 2) none rest := by
  have hx := lead_two (v / 64 % 32) (by omega) (by omega)
  have hy : Pending.next ⟨1, 0, v / 64 % 32, 0x80, 0xBF⟩ (UInt8.ofNat (v % 64 + 0x80)) =
      .char (Char.ofNat (v / 64 % 32 * 64 + v % 64)) :=
    next_last (by omega) (by simp) (by simp; omega)
  have hbits : v / 64 % 32 * 64 + v % 64 = v := by omega
  rw [hbits] at hy
  simp only [decodeFrom, hx, hy]

/-- The values from 0xD800 to 0xDFFF are no characters. -/
theorem decodeFrom_three (hlow : 0x800 ≤ v) (hhigh : v < 0x10000)
    (hvalid : v < 0xD800 ∨ 0xDFFF < v) :
    decodeFrom index none (UInt8.ofNat (v / 4096 % 16 + 0xE0) ::
        UInt8.ofNat (v / 64 % 64 + 0x80) :: UInt8.ofNat (v % 64 + 0x80) :: rest) =
      (Char.ofNat v :: ·) <$> decodeFrom (index + 3) none rest := by
  have hx := lead_three (v / 4096 % 16) (by omega)
  have hy : Pending.next
      ⟨1, 1, v / 4096 % 16, if v / 4096 % 16 = 0 then 0xA0 else 0x80,
        if v / 4096 % 16 = 13 then 0x9F else 0xBF⟩ (UInt8.ofNat (v / 64 % 64 + 0x80)) =
      .more ⟨2, 0, v / 4096 % 16 * 64 + v / 64 % 64, 0x80, 0xBF⟩ :=
    next_more (by omega) (by split <;> simp; omega) (by split <;> simp <;> omega)
  have hz : Pending.next ⟨2, 0, v / 4096 % 16 * 64 + v / 64 % 64, 0x80, 0xBF⟩
      (UInt8.ofNat (v % 64 + 0x80)) =
      .char (Char.ofNat ((v / 4096 % 16 * 64 + v / 64 % 64) * 64 + v % 64)) :=
    next_last (by omega) (by simp) (by simp; omega)
  have hbits : (v / 4096 % 16 * 64 + v / 64 % 64) * 64 + v % 64 = v := by omega
  rw [hbits] at hz
  simp only [decodeFrom, hx, hy, hz]

theorem decodeFrom_four (hlow : 0x10000 ≤ v) (hhigh : v < 0x110000) :
    decodeFrom index none (UInt8.ofNat (v / 262144 % 8 + 0xF0) ::
        UInt8.ofNat (v / 4096 % 64 + 0x80) :: UInt8.ofNat (v / 64 % 64 + 0x80) ::
        UInt8.ofNat (v % 64 + 0x80) :: rest) =
      (Char.ofNat v :: ·) <$> decodeFrom (index + 4) none rest := by
  have hx := lead_four (v / 262144 % 8) (by omega)
  have hy : Pending.next
      ⟨1, 2, v / 262144 % 8, if v / 262144 % 8 = 0 then 0x90 else 0x80,
        if v / 262144 % 8 = 4 then 0x8F else 0xBF⟩ (UInt8.ofNat (v / 4096 % 64 + 0x80)) =
      .more ⟨2, 1, v / 262144 % 8 * 64 + v / 4096 % 64, 0x80, 0xBF⟩ :=
    next_more (by omega) (by split <;> simp; omega) (by split <;> simp <;> omega)
  have hz : Pending.next ⟨2, 1, v / 262144 % 8 * 64 + v / 4096 % 64, 0x80, 0xBF⟩
      (UInt8.ofNat (v / 64 % 64 + 0x80)) =
      .more ⟨3, 0, (v / 262144 % 8 * 64 + v / 4096 % 64) * 64 + v / 64 % 64, 0x80, 0xBF⟩ :=
    next_more (by omega) (by simp) (by simp; omega)
  have hw : Pending.next
      ⟨3, 0, (v / 262144 % 8 * 64 + v / 4096 % 64) * 64 + v / 64 % 64, 0x80, 0xBF⟩
      (UInt8.ofNat (v % 64 + 0x80)) =
      .char (Char.ofNat
        (((v / 262144 % 8 * 64 + v / 4096 % 64) * 64 + v / 64 % 64) * 64 + v % 64)) :=
    next_last (by omega) (by simp) (by simp; omega)
  have hbits :
      ((v / 262144 % 8 * 64 + v / 4096 % 64) * 64 + v / 64 % 64) * 64 + v % 64 = v := by
    omega
  rw [hbits] at hw
  simp only [decodeFrom, hx, hy, hz, hw]

end

theorem decodeFrom_encodeChar (index : Nat) (c : Char) (rest : List UInt8) :
    decodeFrom index none (String.utf8EncodeChar c ++ rest) =
      (c :: ·) <$> decodeFrom (index + (String.utf8EncodeChar c).length) none rest := by
  obtain ⟨v, hv⟩ : ∃ v, v = c.val.toNat := ⟨_, rfl⟩
  have hchar : Char.ofNat v = c := by rw [hv]; exact Char.ofNat_toNat c
  have hvalid : v < 0xD800 ∨ 0xDFFF < v ∧ v < 0x110000 := by rw [hv]; exact c.valid
  unfold String.utf8EncodeChar
  rw [← hv, ← hchar]
  dsimp only
  split
  · have hx := lead_one v (by omega)
    simp only [List.cons_append, List.nil_append, decodeFrom, hx, List.length_cons,
      List.length_nil]
  · split
    · exact decodeFrom_two index rest (by omega) (by omega)
    · split
      · exact decodeFrom_three index rest (by omega) (by omega) (by omega)
      · exact decodeFrom_four index rest (by omega) (by omega)

theorem decodeFrom_encode (cs : List Char) :
    ∀ index, decodeFrom index none (cs.flatMap String.utf8EncodeChar) = .ok cs := by
  induction cs with
  | nil => intro index; rfl
  | cons c rest ih =>
    intro index
    rw [List.flatMap_cons, decodeFrom_encodeChar, ih]
    rfl

theorem decode_encode (s : String) : decode (encode s) = .ok s := by
  rw [decode, encode_eq, decodeFrom_encode]
  change Except.ok (String.ofList s.toList) = .ok s
  rw [String.ofList_toList]

theorem encode_injective : Function.Injective encode := by
  intro s t h
  have hs := decode_encode s
  rw [h, decode_encode] at hs
  cases hs
  rfl

/-! ## Octets below 0x80 -/

theorem mem_encodeChar_of_lt {c : Char} {b : UInt8} (h : b ∈ String.utf8EncodeChar c)
    (hb : b.toNat < 0x80) : c = Char.ofNat b.toNat := by
  obtain ⟨v, hv⟩ : ∃ v, v = c.val.toNat := ⟨_, rfl⟩
  have hchar : Char.ofNat v = c := by rw [hv]; exact Char.ofNat_toNat c
  unfold String.utf8EncodeChar at h
  rw [← hv] at h
  dsimp only at h
  split at h
  · rw [List.mem_singleton] at h
    rw [h, UInt8.toNat_ofNat', ← hchar]
    congr 1
    omega
  · exfalso
    split at h
    · simp only [List.mem_cons, List.not_mem_nil, or_false] at h
      rcases h with rfl | rfl <;> simp only [UInt8.toNat_ofNat'] at hb <;> omega
    · split at h
      · simp only [List.mem_cons, List.not_mem_nil, or_false] at h
        rcases h with rfl | rfl | rfl <;> simp only [UInt8.toNat_ofNat'] at hb <;> omega
      · simp only [List.mem_cons, List.not_mem_nil, or_false] at h
        rcases h with rfl | rfl | rfl | rfl <;> simp only [UInt8.toNat_ofNat'] at hb <;> omega

theorem mem_encode_of_lt {s : String} {b : UInt8} (h : b ∈ encode s) (hb : b.toNat < 0x80) :
    Char.ofNat b.toNat ∈ s.toList := by
  rw [encode_eq] at h
  obtain ⟨c, hc, hmem⟩ := List.mem_flatMap.mp h
  rwa [← mem_encodeChar_of_lt hmem hb]

/-! ## Lossy decoding -/

theorem lossyFrom_of_decodeFrom {octets : List UInt8} {cs : List Char} :
    ∀ {index pending}, decodeFrom index pending octets = .ok cs →
      lossyFrom pending octets = cs := by
  induction octets generalizing cs with
  | nil =>
    intro index pending h
    cases pending with
    | none => cases h; rfl
    | some p => cases h
  | cons b rest ih =>
    have hchar : ∀ {index c}, (c :: ·) <$> decodeFrom index none rest = Except.ok cs →
        c :: lossyFrom none rest = cs := by
      intro index c h
      cases hrest : decodeFrom index none rest with
      | error e => rw [hrest] at h; cases h
      | ok tail =>
        rw [hrest] at h
        cases h
        rw [ih hrest]
    intro index pending h
    cases pending with
    | none =>
      unfold decodeFrom at h
      unfold lossyFrom
      dsimp only at h ⊢
      cases hb : lead b with
      | char c => rw [hb] at h; exact hchar h
      | more p => rw [hb] at h; exact ih h
      | refused => rw [hb] at h; cases h
    | some p =>
      unfold decodeFrom at h
      unfold lossyFrom
      dsimp only at h ⊢
      cases hb : p.next b with
      | char c => rw [hb] at h; exact hchar h
      | more p => rw [hb] at h; exact ih h
      | refused => rw [hb] at h; cases h

@[simp] theorem lossy_encode (s : String) : lossy (encode s) = s := by
  rw [lossy, encode_eq, lossyFrom_of_decodeFrom (decodeFrom_encode s.toList 0),
    String.ofList_toList]

/-- The last `n` octets of a character with value `v` that has more than `n` octets. -/
def tails (v : Nat) : Nat → List UInt8
  | 0 => []
  | n + 1 => UInt8.ofNat (v / 64 ^ n % 64 + 0x80) :: tails v n

section

variable {v : Nat}

theorem toNat_val_ofNat (h : v.isValidChar) : (Char.ofNat v).val.toNat = v :=
  (Char.toNat_ofNat v).trans (if_pos h)

theorem encodeChar_one (h : v < 0x80) :
    String.utf8EncodeChar (Char.ofNat v) = [UInt8.ofNat v] := by
  unfold String.utf8EncodeChar
  rw [toNat_val_ofNat (.inl (by omega))]
  exact if_pos (by omega)

theorem encodeChar_two (hlow : 0x80 ≤ v) (hhigh : v < 0x800) :
    String.utf8EncodeChar (Char.ofNat v) = UInt8.ofNat (v / 64 + 0xC0) :: tails v 1 := by
  unfold String.utf8EncodeChar
  rw [toNat_val_ofNat (.inl (by omega))]
  dsimp only
  rw [if_neg (by omega), if_pos (by omega), show v / 64 % 32 = v / 64 by omega]
  simp [tails]

theorem encodeChar_three (hlow : 0x800 ≤ v) (hhigh : v < 0x10000)
    (hvalid : v < 0xD800 ∨ 0xDFFF < v) :
    String.utf8EncodeChar (Char.ofNat v) = UInt8.ofNat (v / 4096 + 0xE0) :: tails v 2 := by
  unfold String.utf8EncodeChar
  rw [toNat_val_ofNat (hvalid.imp_right fun h => ⟨h, by omega⟩)]
  dsimp only
  rw [if_neg (by omega), if_neg (by omega), if_pos (by omega),
    show v / 4096 % 16 = v / 4096 by omega]
  simp [tails]

theorem encodeChar_four (hlow : 0x10000 ≤ v) (hhigh : v < 0x110000) :
    String.utf8EncodeChar (Char.ofNat v) = UInt8.ofNat (v / 262144 + 0xF0) :: tails v 3 := by
  unfold String.utf8EncodeChar
  rw [toNat_val_ofNat (.inr ⟨by omega, hhigh⟩)]
  dsimp only
  rw [if_neg (by omega), if_neg (by omega), if_neg (by omega),
    show v / 262144 % 8 = v / 262144 by omega]
  simp [tails]

end

/-- The octets read so far begin every character that can still come. -/
structure Begins (read : List UInt8) (p : Pending) : Prop where
  low : 0x80 ≤ p.low.toNat
  high : p.high.toNat ≤ 0xBF
  octets : ∀ v, v / 64 ^ (p.owed + 1) = p.bits → p.low.toNat ≤ v / 64 ^ p.owed % 64 + 0x80 →
    v / 64 ^ p.owed % 64 + 0x80 ≤ p.high.toNat →
    String.utf8EncodeChar (Char.ofNat v) = read ++ tails v (p.owed + 1)

theorem lead_refused_low : ∀ n < 66, lead (UInt8.ofNat (n + 0x80)) = .refused := by decide

theorem lead_refused_high : ∀ n < 11, lead (UInt8.ofNat (n + 0xF5)) = .refused := by decide

theorem begins_two {m : Nat} (hm : m < 32) (htwo : 2 ≤ m) :
    Begins [UInt8.ofNat (m + 0xC0)] ⟨1, 0, m, 0x80, 0xBF⟩ := by
  refine ⟨by simp, by simp, ?_⟩
  intro v hbits _ _
  have hlead : v / 64 = m := hbits
  rw [encodeChar_two (by omega) (by omega), hlead]
  rfl

/-- The limits of the first tail octet leave out what has a shorter form, and what is no
character. -/
theorem begins_three {m : Nat} (hm : m < 16) :
    Begins [UInt8.ofNat (m + 0xE0)]
      ⟨1, 1, m, if m = 0 then 0xA0 else 0x80, if m = 13 then 0x9F else 0xBF⟩ := by
  refine ⟨by dsimp only; split <;> simp, by dsimp only; split <;> simp, ?_⟩
  intro v hbits hlow hhigh
  have hlead : v / 4096 = m := hbits
  have hshort : m = 0 → 0x20 ≤ v / 64 % 64 := by
    rintro rfl
    have hlimit : 0xA0 ≤ v / 64 % 64 + 0x80 := hlow
    omega
  have hsurrogate : m = 13 → v / 64 % 64 < 0x20 := by
    rintro rfl
    have hlimit : v / 64 % 64 + 0x80 ≤ 0x9F := hhigh
    omega
  rw [encodeChar_three (by omega) (by omega) (by omega), hlead]
  rfl

theorem begins_four {m : Nat} (hm : m < 5) :
    Begins [UInt8.ofNat (m + 0xF0)]
      ⟨1, 2, m, if m = 0 then 0x90 else 0x80, if m = 4 then 0x8F else 0xBF⟩ := by
  refine ⟨by dsimp only; split <;> simp, by dsimp only; split <;> simp, ?_⟩
  intro v hbits hlow hhigh
  have hlead : v / 262144 = m := hbits
  have hshort : m = 0 → 0x10 ≤ v / 4096 % 64 := by
    rintro rfl
    have hlimit : 0x90 ≤ v / 4096 % 64 + 0x80 := hlow
    omega
  have hlarge : m = 4 → v / 4096 % 64 < 0x10 := by
    rintro rfl
    have hlimit : v / 4096 % 64 + 0x80 ≤ 0x8F := hhigh
    omega
  rw [encodeChar_four (by omega) (by omega), hlead]
  rfl

/-- What an octet says at the start of a character. -/
theorem lead_cases (b : UInt8) :
    lead b = .refused ∨ (∃ c, lead b = .char c ∧ String.utf8EncodeChar c = [b]) ∨
      ∃ p, lead b = .more p ∧ Begins [b] p := by
  obtain ⟨n, hn, rfl⟩ : ∃ n < 256, b = UInt8.ofNat n := ⟨b.toNat, b.toNat_lt, by simp⟩
  -- The octets of each kind follow on those of the one before it.
  by_cases hone : n < 0x80
  · exact .inr (.inl ⟨_, lead_one n hone, encodeChar_one hone⟩)
  by_cases hlow : n < 0xC2
  · obtain ⟨m, rfl⟩ := Nat.exists_eq_add_of_le' (Nat.le_of_not_lt hone)
    exact .inl (lead_refused_low m (by omega))
  by_cases htwo : n < 0xE0
  · obtain ⟨m, rfl⟩ : ∃ m, n = m + 0xC0 := Nat.exists_eq_add_of_le' (by omega)
    exact .inr (.inr ⟨_, lead_two m (by omega) (by omega), begins_two (by omega) (by omega)⟩)
  by_cases hthree : n < 0xF0
  · obtain ⟨m, rfl⟩ := Nat.exists_eq_add_of_le' (Nat.le_of_not_lt htwo)
    exact .inr (.inr ⟨_, lead_three m (by omega), begins_three (by omega)⟩)
  by_cases hfour : n < 0xF5
  · obtain ⟨m, rfl⟩ := Nat.exists_eq_add_of_le' (Nat.le_of_not_lt hthree)
    exact .inr (.inr ⟨_, lead_four m (by omega), begins_four (by omega)⟩)
  · obtain ⟨m, rfl⟩ := Nat.exists_eq_add_of_le' (Nat.le_of_not_lt hfour)
    exact .inl (lead_refused_high m (by omega))

variable {p : Pending} {read : List UInt8} {b : UInt8}

/-- A tail octet, by the six bits that it adds. -/
theorem Begins.tail (h : Begins read p) (hlow : p.low ≤ b) (hhigh : b ≤ p.high) {v : Nat}
    (hbits : v / 64 ^ (p.owed + 1) = p.bits) (htail : v / 64 ^ p.owed % 64 = b.toNat % 64) :
    String.utf8EncodeChar (Char.ofNat v) = read ++ [b] ++ tails v p.owed := by
  rw [UInt8.le_iff_toNat_le] at hlow hhigh
  have hleast := h.low.trans hlow
  have hgreatest := hhigh.trans h.high
  have hvalue : v / 64 ^ p.owed % 64 + 0x80 = b.toNat := by omega
  rw [h.octets v hbits (hlow.trans_eq hvalue.symm) (hvalue.trans_le hhigh)]
  simp only [tails, hvalue, UInt8.ofNat_toNat, List.append_assoc, List.singleton_append]

theorem Begins.last {c : Char} (h : Begins read p) (hb : p.next b = .char c) :
    String.utf8EncodeChar c = read ++ [b] := by
  obtain ⟨count, owed, bits, low, high⟩ := p
  unfold Pending.next at hb
  split_ifs at hb with hrange
  cases owed with
  | succ owed => cases hb
  | zero =>
    cases hb
    refine (h.tail hrange.1 hrange.2 ?_ ?_).trans (List.append_nil _)
    · show (bits * 64 + b.toNat % 64) / 64 = bits
      omega
    · show (bits * 64 + b.toNat % 64) / 1 % 64 = b.toNat % 64
      omega

theorem Begins.next {p' : Pending} (h : Begins read p) (hb : p.next b = .more p') :
    Begins (read ++ [b]) p' := by
  obtain ⟨count, owed, bits, low, high⟩ := p
  unfold Pending.next at hb
  split_ifs at hb with hrange
  cases owed with
  | zero => cases hb
  | succ owed =>
    cases hb
    refine ⟨by simp, by simp, fun v hbits _ _ => ?_⟩
    have hvalue : v / 64 ^ (owed + 1) = bits * 64 + b.toNat % 64 := hbits
    refine h.tail hrange.1 hrange.2 ?_ ?_
    · show v / 64 ^ (owed + 1 + 1) = bits
      rw [Nat.pow_succ, ← Nat.div_div_eq_div_mul, hvalue]
      omega
    · show v / 64 ^ (owed + 1) % 64 = b.toNat % 64
      rw [hvalue]
      omega

/-- What was read of the character under construction. -/
def Held (read : List UInt8) : Option Pending → Prop
  | none => read = []
  | some p => Begins read p

/-- Without ill-formed parts, the characters have the octets that were read. -/
theorem lossyFrom_octets {octets : List UInt8} :
    ∀ {read pending}, Held read pending → replacement ∉ lossyFrom pending octets →
      read ++ octets = (lossyFrom pending octets).flatMap String.utf8EncodeChar := by
  -- On the octets, whatever is held of the character under construction.
  induction octets with
  | nil =>
    intro read pending hread hplain
    cases pending with
    | none => cases hread; rfl
    | some p => exact absurd List.mem_cons_self hplain
  | cons b rest ih =>
    intro read pending hread hplain
    have hrest : ∀ {c}, replacement ∉ c :: lossyFrom none rest →
        rest = (lossyFrom none rest).flatMap String.utf8EncodeChar := fun h =>
      ih (show Held [] none from rfl) (List.not_mem_of_not_mem_cons h)
    unfold lossyFrom at hplain ⊢
    cases pending with
    | none =>
      cases hread
      dsimp only at hplain ⊢
      rcases lead_cases b with hb | ⟨c, hb, hoctets⟩ | ⟨p, hb, hbegins⟩
      · rw [hb] at hplain
        exact absurd List.mem_cons_self hplain
      · rw [hb] at hplain
        rw [hb, List.flatMap_cons, hoctets, ← hrest hplain]
        rfl
      · rw [hb] at hplain
        rw [hb]
        exact ih (show Held [b] (some p) from hbegins) hplain
    | some p =>
      dsimp only at hplain ⊢
      cases hb : p.next b with
      | char c =>
        rw [hb] at hplain
        rw [List.flatMap_cons, Begins.last hread hb, ← hrest hplain, List.append_assoc]
        rfl
      | more p' =>
        rw [hb] at hplain
        have hnext := ih (show Held (read ++ [b]) (some p') from Begins.next hread hb) hplain
        rwa [List.append_assoc] at hnext
      | refused =>
        rw [hb] at hplain
        cases hlead : lead b with
        | char c => rw [hlead] at hplain; exact absurd List.mem_cons_self hplain
        | more p => rw [hlead] at hplain; exact absurd List.mem_cons_self hplain
        | refused => rw [hlead] at hplain; exact absurd List.mem_cons_self hplain

/-- A text without replaced parts is the text of its own octets only. -/
theorem lossy_eq_iff {octets : List UInt8} {s : String} (hplain : replacement ∉ s.toList) :
    lossy octets = s ↔ octets = encode s := by
  constructor
  · rintro rfl
    rw [lossy, String.toList_ofList] at hplain
    rw [encode_eq, lossy, String.toList_ofList]
    exact lossyFrom_octets (show Held [] none from rfl) hplain
  · rintro rfl
    exact lossy_encode s

end BindingCoverage.Utf8
