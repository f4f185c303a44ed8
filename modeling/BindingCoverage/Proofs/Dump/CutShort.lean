import BindingCoverage.Proofs.Dump.Document
import BindingCoverage.Proofs.Xml.Feed
import BindingCoverage.Proofs.Xml.Root

/-!
# Dumps that are cut short

`rootEnd` is where the root element of a dump ends. A dump that ends earlier, or whose source
fails, is never taken for a shorter one.

* `decodeOctets_cut_short`: the dumps that are refused on that account.
-/

namespace BindingCoverage.Dump

open Xml

/-- The number of octets up to the end of the last tag of the root element. -/
def rootEnd (octets : List UInt8) : Option Nat :=
  match Lexer.initial.run (Feed.whole octets).octets with
  | .ok (spans, _) => (rootStop 0 spans).map (Feed.markSize octets + ·)
  | .error _ => none

/-- Part of a byte-order mark is no document. -/
theorem decodeOctets_take_mark {octets : List UInt8} {n : Nat} (h : n < Feed.markSize octets) :
    decodeOctets (octets.take n) = .error .noRoot := by
  unfold Feed.markSize at h
  by_cases hmark : Feed.byteOrderMark.isPrefixOf octets
  · rw [if_pos hmark] at h
    obtain ⟨rest, rfl⟩ := List.isPrefixOf_iff_prefix.mp hmark
    rw [List.take_append_of_le_length (Nat.le_of_lt h)]
    have hall : ∀ k < Feed.byteOrderMark.length,
        decodeOctets (Feed.byteOrderMark.take k) = .error .noRoot := by decide +kernel
    exact hall n h
  · rw [if_neg hmark] at h
    exact absurd h (Nat.not_lt_zero n)

/-- A document ends no earlier than its root element, whatever comes after it. -/
theorem rootEnd_le {octets : List UInt8} {n stop : Nat} {tag : Tag} {inner : Content}
    (hmark : Feed.markSize octets ≤ n) (h : (read (.whole (octets.take n))).IsDocument tag inner)
    (hstop : rootEnd octets = some stop) : stop ≤ n := by
  obtain ⟨spans, last, hrun, -, hspells⟩ := isDocument_iff.mp h
  obtain ⟨first, t, second, rfl, -, -, hroot⟩ := exists_root hspells rfl rfl
  have hend := Lexer.stop_le_of_run hrun t (by simp)
  rw [Feed.whole_octets, Feed.markSize_take hmark] at hrun hend
  have hbody : octets.drop (Feed.markSize octets) =
      (octets.take n).drop (Feed.markSize octets) ++ octets.drop n := by
    have htail : octets.drop n =
        (octets.drop (Feed.markSize octets)).drop (n - Feed.markSize octets) := by
      rw [List.drop_drop, Nat.add_sub_cancel' hmark]
    rw [List.drop_take, htail, List.take_append_drop]
  unfold rootEnd at hstop
  rw [Feed.whole_octets, hbody, Lexer.run_append_ok hrun] at hstop
  cases htail : last.run (octets.drop n) with
  | error e =>
    rw [htail] at hstop
    cases hstop
  | ok q =>
    rw [htail] at hstop
    have hspans : (rootStop 0 (first ++ t :: second ++ q.1)).map (Feed.markSize octets + ·) =
        some stop := hstop
    rw [List.append_assoc, List.cons_append, hroot, Option.map_some] at hspans
    have hlength : ((octets.take n).drop (Feed.markSize octets)).length ≤
        n - Feed.markSize octets := by
      simp only [List.length_drop, List.length_take]
      omega
    have hzero : Lexer.initial.offset = 0 := rfl
    cases hspans
    omega

/-- A document is one up to the end of its root element. -/
theorem exists_rootEnd {octets : List UInt8} {tag : Tag} {inner : Content}
    (h : (read (.whole octets)).IsDocument tag inner) :
    ∃ stop, rootEnd octets = some stop ∧ stop ≤ octets.length ∧
      (read (.whole (octets.take stop))).IsDocument tag inner := by
  obtain ⟨spans, last, hrun, -, hspells⟩ := isDocument_iff.mp h
  obtain ⟨first, t, second, rfl, htag, hspells, hroot⟩ := exists_root hspells rfl rfl
  have hzero : Lexer.initial.offset = 0 := rfl
  have hend := Lexer.stop_le_of_run hrun t (by simp)
  have htake := Lexer.run_take htag hrun (n := t.stop) (by omega)
  have hlength := Feed.markSize_le octets
  rw [Feed.whole_octets, List.length_drop, hzero] at hend
  refine ⟨Feed.markSize octets + t.stop, ?_, by omega, ?_⟩
  · unfold rootEnd
    rw [hrun]
    exact congrArg (Option.map (Feed.markSize octets + ·)) (hroot second)
  · refine isDocument_iff.mpr ⟨first ++ [t], ⟨.text false, t.stop, t.stop⟩, ?_, rfl, hspells⟩
    rw [Feed.whole_octets, Feed.markSize_take (Nat.le_add_right _ _), List.drop_take,
      Nat.add_sub_cancel_left, ← Feed.whole_octets]
    exact htake

/-- An accepted dump is complete with the end of its root element, and refused when it ends before
that. A dump whose source fails is refused, however much of it was delivered. -/
theorem decodeOctets_cut_short :
    (∀ (octets : List UInt8) (s : DeclarationSet), decodeOctets octets = .ok s →
      ∃ stop, rootEnd octets = some stop ∧ stop ≤ octets.length ∧
        decodeOctets (octets.take stop) = .ok s ∧
        ∀ n < stop, ∃ e, decodeOctets (octets.take n) = .error e) ∧
    ∀ (deliveries : List Delivery) (text : String),
      ∃ e, decode ⟨deliveries, some text⟩ = .error e := by
  constructor
  · intro octets s h
    obtain ⟨tag, inner, hdocument, hread, rfl⟩ := decode_eq_ok_iff.mp h
    obtain ⟨stop, hstop, hle, htake⟩ := exists_rootEnd hdocument
    refine ⟨stop, hstop, hle, decode_eq_ok_iff.mpr ⟨tag, inner, htake, hread, rfl⟩, ?_⟩
    intro n hn
    by_cases hmark : n < Feed.markSize octets
    · exact ⟨.noRoot, decodeOctets_take_mark hmark⟩
    · cases hdecode : decodeOctets (octets.take n) with
      | error e => exact ⟨e, rfl⟩
      | ok s' =>
        obtain ⟨tag', inner', hshort, -, -⟩ := decode_eq_ok_iff.mp hdecode
        have hend := rootEnd_le (by omega) hshort hstop
        omega
  · intro deliveries text
    cases hdecode : decode ⟨deliveries, some text⟩ with
    | error e => exact ⟨e, rfl⟩
    | ok s =>
      obtain ⟨tag, inner, hdocument, -, -⟩ := decode_eq_ok_iff.mp hdecode
      obtain ⟨spans, last, -, hstop, -⟩ := isDocument_iff.mp hdocument
      cases hstop

/-- A byte-order mark before the dump, and a comment after its root element. -/
theorem decodeOctets_cut_short_comment :
    ∃ (octets : List UInt8) (s : DeclarationSet),
      octets = Feed.byteOrderMark ++
        Utf8.encode "<?xml version='1.0'?><r><Function name='f>'/></r > <!-- </r> -->" ∧
      decodeOctets octets = .ok s ∧ rootEnd octets = some 53 ∧ s = ⟨[.named "f>"]⟩ ∧
      (∀ n < 53, ∃ e, decodeOctets (octets.take n) = .error e) ∧
      ∃ e, decode ⟨[.buffer octets], some "broken pipe"⟩ = .error e := by
  obtain ⟨octets, hoctets⟩ : ∃ octets, octets = Feed.byteOrderMark ++
    Utf8.encode "<?xml version='1.0'?><r><Function name='f>'/></r > <!-- </r> -->" := ⟨_, rfl⟩
  have hdecoded : decodeOctets octets = .ok ⟨[.named "f>"]⟩ := by rw [hoctets]; decide +kernel
  have hend : rootEnd octets = some 53 := by rw [hoctets]; decide +kernel
  obtain ⟨stop, hstop, -, -, hshort⟩ := decodeOctets_cut_short.1 _ _ hdecoded
  rw [hend] at hstop
  cases hstop
  exact ⟨octets, _, hoctets, hdecoded, hend, rfl, hshort, decodeOctets_cut_short.2 _ _⟩

end BindingCoverage.Dump
