import BindingCoverage.Proofs.Text.Utf8
import BindingCoverage.Text.Sorted

/-!
# Texts in rising order

* `Utf8.encode_lt_encode_iff`: texts have the order of their octets.
* `Text.Sorted.mem_unique`, `Text.Sorted.pairwise_unique`: the sorted list of some texts has them in
  rising order, each once.
* `Text.Sorted.unique_congr`: neither the order of the texts nor their repetitions matter for it.
-/

namespace BindingCoverage

/-! ## The order of octets -/

namespace Utf8

/-- Lists with lesser heads are lesser, and of those with the same head the ones with lesser
tails. -/
theorem cons_ofNat_lt {m n : Nat} (hm : m < 256) (hn : n < 256) {xs ys : List UInt8}
    (h : m < n ∨ m = n ∧ xs < ys) : UInt8.ofNat m :: xs < UInt8.ofNat n :: ys := by
  rw [List.cons_lt_cons_iff]
  rcases h with h | ⟨rfl, h⟩
  · left
    rw [UInt8.lt_iff_toNat_lt, UInt8.toNat_ofNat_of_lt' hm, UInt8.toNat_ofNat_of_lt' hn]
    exact h
  · exact .inr ⟨rfl, h⟩

/-- The octets of a lesser character are lesser, whatever comes after them. -/
theorem encodeChar_append_lt {c d : Char} (h : c < d) (xs ys : List UInt8) :
    String.utf8EncodeChar c ++ xs < String.utf8EncodeChar d ++ ys := by
  obtain ⟨v, hv⟩ : ∃ v, v = c.val.toNat := ⟨_, rfl⟩
  obtain ⟨w, hw⟩ : ∃ w, w = d.val.toNat := ⟨_, rfl⟩
  have hlt : v < w := by rw [hv, hw]; exact h
  have hvalid : w < 0xD800 ∨ 0xDFFF < w ∧ w < 0x110000 := by rw [hw]; exact d.valid
  unfold String.utf8EncodeChar
  rw [← hv, ← hw]
  dsimp only
  split_ifs
  -- the lesser character has no more octets; if it has fewer, or only one, the first octets decide
  all_goals try omega
  all_goals try exact cons_ofNat_lt (by omega) (by omega) (.inl (by omega))
  · obtain h₁ | h₁ : v / 64 < w / 64 ∨ v / 64 = w / 64 := by omega
    · exact cons_ofNat_lt (by omega) (by omega) (.inl (by omega))
    refine cons_ofNat_lt (by omega) (by omega) (.inr ⟨by omega, ?_⟩)
    exact cons_ofNat_lt (by omega) (by omega) (.inl (by omega))
  · obtain h₁ | h₁ : v / 4096 < w / 4096 ∨ v / 4096 = w / 4096 := by omega
    · exact cons_ofNat_lt (by omega) (by omega) (.inl (by omega))
    refine cons_ofNat_lt (by omega) (by omega) (.inr ⟨by omega, ?_⟩)
    obtain h₂ | h₂ : v / 64 < w / 64 ∨ v / 64 = w / 64 := by omega
    · exact cons_ofNat_lt (by omega) (by omega) (.inl (by omega))
    refine cons_ofNat_lt (by omega) (by omega) (.inr ⟨by omega, ?_⟩)
    exact cons_ofNat_lt (by omega) (by omega) (.inl (by omega))
  · obtain h₁ | h₁ : v / 262144 < w / 262144 ∨ v / 262144 = w / 262144 := by omega
    · exact cons_ofNat_lt (by omega) (by omega) (.inl (by omega))
    refine cons_ofNat_lt (by omega) (by omega) (.inr ⟨by omega, ?_⟩)
    obtain h₂ | h₂ : v / 4096 < w / 4096 ∨ v / 4096 = w / 4096 := by omega
    · exact cons_ofNat_lt (by omega) (by omega) (.inl (by omega))
    refine cons_ofNat_lt (by omega) (by omega) (.inr ⟨by omega, ?_⟩)
    obtain h₃ | h₃ : v / 64 < w / 64 ∨ v / 64 = w / 64 := by omega
    · exact cons_ofNat_lt (by omega) (by omega) (.inl (by omega))
    refine cons_ofNat_lt (by omega) (by omega) (.inr ⟨by omega, ?_⟩)
    exact cons_ofNat_lt (by omega) (by omega) (.inl (by omega))

theorem flatMap_encodeChar_lt {cs ds : List Char} (h : cs < ds) :
    cs.flatMap String.utf8EncodeChar < ds.flatMap String.utf8EncodeChar := by
  induction h with
  | nil =>
    rename_i d ds
    rw [List.flatMap_cons]
    cases hd : String.utf8EncodeChar d with
    | nil => exact absurd hd (String.utf8EncodeChar_ne_nil)
    | cons b rest => exact List.nil_lt_cons _ _
  | cons _ ih =>
    rw [List.flatMap_cons, List.flatMap_cons]
    exact List.append_left_lt ih
  | rel hlt =>
    rw [List.flatMap_cons, List.flatMap_cons]
    exact encodeChar_append_lt hlt _ _

theorem encode_lt_encode_iff {s t : String} : encode s < encode t ↔ s < t := by
  have hforward : ∀ {s t : String}, s < t → encode s < encode t := by
    intro s t h
    rw [encode_eq, encode_eq]
    exact flatMap_encodeChar_lt (String.lt_iff_toList_lt.mp h)
  constructor
  · intro h
    rcases lt_trichotomy s t with hlt | rfl | hgt
    · exact hlt
    · exact absurd h (List.lt_irrefl _)
    · exact absurd h (List.lt_asymm (hforward hgt))
  · exact hforward

end Utf8

/-! ## Sorted lists -/

namespace Text.Sorted

@[simp] theorem mem_insert {s t : String} {texts : List String} :
    t ∈ insert s texts ↔ t = s ∨ t ∈ texts := by
  induction texts with
  | nil => simp [insert]
  | cons u rest ih =>
    unfold insert
    split_ifs with hLt hEq
    · simp
    · subst hEq
      simp
    · rw [List.mem_cons, ih, List.mem_cons]
      exact or_left_comm

theorem pairwise_insert (s : String) {texts : List String} (h : texts.Pairwise (· < ·)) :
    (insert s texts).Pairwise (· < ·) := by
  induction texts with
  | nil => exact List.pairwise_singleton _ s
  | cons u rest ih =>
    obtain ⟨hHead, hRest⟩ := List.pairwise_cons.mp h
    unfold insert
    split_ifs with hLt hEq
    · refine List.pairwise_cons.mpr ⟨fun t ht => ?_, h⟩
      rcases List.mem_cons.mp ht with rfl | ht
      · exact hLt
      · exact hLt.trans (hHead t ht)
    · exact h
    · have hGt : u < s := lt_of_le_of_ne (not_lt.mp hLt) (Ne.symm hEq)
      refine List.pairwise_cons.mpr ⟨fun t ht => ?_, ih hRest⟩
      rcases mem_insert.mp ht with rfl | ht
      · exact hGt
      · exact hHead t ht

@[simp] theorem mem_unique {t : String} {texts : List String} : t ∈ unique texts ↔ t ∈ texts := by
  induction texts with
  | nil => exact Iff.rfl
  | cons s rest ih =>
    change t ∈ insert s (unique rest) ↔ t ∈ s :: rest
    rw [mem_insert, ih, List.mem_cons]

theorem pairwise_unique (texts : List String) : (unique texts).Pairwise (· < ·) := by
  induction texts with
  | nil => exact List.Pairwise.nil
  | cons s rest ih => exact pairwise_insert s ih

theorem unique_congr {texts texts' : List String} (h : ∀ t, t ∈ texts ↔ t ∈ texts') :
    unique texts = unique texts' := by
  refine (pairwise_unique texts).eq_of_mem_iff (pairwise_unique texts') fun t => ?_
  rw [mem_unique, mem_unique, h]

end Text.Sorted

end BindingCoverage
