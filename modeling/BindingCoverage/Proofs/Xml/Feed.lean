import Mathlib
import BindingCoverage.Xml.Feed

/-!
# The octets of a document

* `octets_eq_drop`: they are all octets that are delivered, after the byte-order mark at the start
  of the first piece.
* `whole_octets`, `buffered_octets`: a document that is held in memory, and one that is delivered in
  pieces of a fixed size that is enough for the mark.
* `markSize_take`: the mark stays the same when the document is cut after it.
-/

namespace BindingCoverage.Xml.Feed

/-- The octets of the byte-order mark, if there is one. -/
def markSize (octets : List UInt8) : Nat :=
  if byteOrderMark.isPrefixOf octets then byteOrderMark.length else 0

theorem octets_eq_drop (feed : Feed) :
    feed.octets = feed.delivered.drop (markSize feed.first) := by
  unfold octets markSize
  split
  · rfl
  · rfl

theorem whole_octets (octets : List UInt8) :
    (whole octets).octets = octets.drop (markSize octets) := by
  have hdelivered : (whole octets).delivered = octets := List.append_nil octets
  rw [octets_eq_drop, hdelivered]
  rfl

theorem first_prefix (feed : Feed) : feed.first <+: feed.delivered := by
  obtain ⟨deliveries, failure⟩ := feed
  induction deliveries with
  | nil => exact List.prefix_rfl
  | cons d rest ih =>
    cases d with
    | interrupted => exact ih
    | buffer octets => exact List.prefix_append octets (rest.flatMap Delivery.octets)

theorem markSize_le (octets : List UInt8) : markSize octets ≤ octets.length := by
  unfold markSize
  split
  · rename_i h
    exact (List.isPrefixOf_iff_prefix.mp h).length_le
  · exact Nat.zero_le _

theorem markSize_le_mark (octets : List UInt8) : markSize octets ≤ byteOrderMark.length := by
  unfold markSize
  split
  · exact Nat.le_refl _
  · exact Nat.zero_le _

theorem markSize_take {octets : List UInt8} {n : Nat} (h : markSize octets ≤ n) :
    markSize (octets.take n) = markSize octets := by
  unfold markSize at h ⊢
  by_cases hmark : byteOrderMark.isPrefixOf octets
  · have hmarked := List.isPrefixOf_iff_prefix.mp hmark
    rw [if_pos hmark] at h
    rw [if_pos hmark, if_pos]
    exact List.isPrefixOf_iff_prefix.mpr (List.prefix_take_iff.mpr ⟨hmarked, h⟩)
  · rw [if_neg hmark, if_neg]
    intro htake
    have hmarked := List.isPrefixOf_iff_prefix.mp htake
    exact hmark (List.isPrefixOf_iff_prefix.mpr (hmarked.trans (List.take_prefix n octets)))

/-! ## Pieces -/

theorem pieces_flatten (size : Nat) (octets : List UInt8) :
    ∀ (room : Nat) (piece : List UInt8),
      (pieces size room piece octets).flatten = piece.reverse ++ octets := by
  induction octets with
  | nil =>
    intro room piece
    cases piece with
    | nil => rfl
    | cons b piece => simp [pieces]
  | cons b rest ih =>
    intro room piece
    cases room with
    | zero => simp [pieces, ih]
    | succ room => simp [pieces, ih]

theorem pieces_head (size : Nat) (octets : List UInt8) :
    ∀ (room : Nat) (piece : List UInt8),
      (pieces size room piece octets).head?.getD [] = piece.reverse ++ octets.take (room + 1) := by
  induction octets with
  | nil =>
    intro room piece
    cases piece with
    | nil => rfl
    | cons b piece => simp [pieces]
  | cons b rest ih =>
    intro room piece
    cases room with
    | zero => simp [pieces]
    | succ room => simp [pieces, ih]

variable (size : Nat) (octets : List UInt8) (failure : Option String)

theorem buffered_delivered : (buffered size octets failure).delivered = octets := by
  unfold buffered delivered
  rw [List.flatMap_map]
  exact List.flatMap_id.trans (pieces_flatten _ octets _ [])

theorem buffered_first : (buffered size octets failure).first = octets.take (size - 1 + 1) := by
  refine Eq.trans ?_ (pieces_head (size - 1) octets (size - 1) [])
  unfold buffered first
  dsimp only
  cases pieces (size - 1) (size - 1) [] octets with
  | nil => rfl
  | cons piece rest => rfl

theorem buffered_octets (h : byteOrderMark.length ≤ size) :
    (buffered size octets failure).octets = octets.drop (markSize octets) := by
  have hMark : markSize octets ≤ size - 1 + 1 := by
    have hSize := (markSize_le_mark octets).trans h
    omega
  rw [octets_eq_drop, buffered_first, buffered_delivered, markSize_take hMark]

end BindingCoverage.Xml.Feed
