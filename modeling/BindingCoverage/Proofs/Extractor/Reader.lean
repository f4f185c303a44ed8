import Mathlib
import BindingCoverage.Extractor.Reader

/-!
# What readers have of a pipe

`Reader.Follows` is what one read after another preserves: the reader keeps a beginning of what was
written, and all of it unless a read has failed; what it put away later stands later.

* `Reader.follows_run`: a reader follows the pipe that it reads.
* `Reader.Follows.held_isPrefix`: at every time a reader has a beginning of the stream.
* `Reader.Follows.held_of_ready_le`, `Reader.signal_eq_ok`: when a reader has signalled the end of
  the pipe, it has the whole stream.
* `Reader.signal_faultless`: a reader whose reads do not fail signals nothing but an end.
-/

namespace BindingCoverage.Extractor

/-- Of what was put away with falling times, the part up to a time is the end. -/
theorem filter_time_suffix {kept : List TimedOctet} (t : Nat)
    (hFalling : kept.Pairwise fun a b => b.time ≤ a.time) :
    kept.filter (·.time ≤ t) <:+ kept := by
  induction kept with
  | nil => exact List.suffix_rfl
  | cons o rest ih =>
    obtain ⟨hHead, hRest⟩ := List.pairwise_cons.mp hFalling
    by_cases hTime : o.time ≤ t
    · have hAll : ∀ a ∈ o :: rest, decide (a.time ≤ t) = true := by
        intro a ha
        rcases List.mem_cons.mp ha with rfl | ha
        · exact decide_eq_true hTime
        · exact decide_eq_true (Nat.le_trans (hHead a ha) hTime)
      rw [List.filter_eq_self.mpr hAll]
    · rw [List.filter_cons_of_neg (by simpa using hTime)]
      exact (ih hRest).trans (List.suffix_cons o rest)

namespace Reader

/-- What a reader has put away, in the order of the stream. -/
def bytes (r : Reader) : List UInt8 := (r.kept.map (·.octet)).reverse

/-- The reader has gone over these octets of a pipe. -/
structure Follows (octets : List TimedOctet) (r : Reader) : Prop where
  beginning : r.bytes <+: octets.map (·.octet)
  whole : r.fault = none → r.bytes = octets.map (·.octet)
  written : r.fault = none → ∀ o ∈ octets, o.time ≤ r.ready
  falling : r.kept.Pairwise fun a b => b.time ≤ a.time
  kept_le : ∀ o ∈ r.kept, o.time ≤ r.ready
  ended_le : r.ended ≤ r.ready

theorem follows_nil : Follows [] {} where
  beginning := List.prefix_rfl
  whole _ := rfl
  written _ := by simp
  falling := List.Pairwise.nil
  kept_le := by simp
  ended_le := Nat.le_refl _

/-- Octets that are written after a read has failed stay where they are. -/
theorem Follows.append {octets : List TimedOctet} {r : Reader} (h : Follows octets r)
    (hFault : r.fault ≠ none) (o : TimedOctet) : Follows (octets ++ [o]) r where
  beginning := by
    rw [List.map_append]
    exact h.beginning.trans (List.prefix_append _ _)
  whole hNone := absurd hNone hFault
  written hNone := absurd hNone hFault
  falling := h.falling
  kept_le := h.kept_le
  ended_le := h.ended_le

/-- A reader that puts away the octet that comes next, no earlier than what it has, follows. -/
theorem Follows.keep {octets : List TimedOctet} {r r' : Reader} (h : Follows octets r)
    {o : TimedOctet} (hNone : r.fault = none) (hKept : r'.kept = ⟨r'.ready, o.octet⟩ :: r.kept)
    (hReady : r.ready ≤ r'.ready) (hWritten : o.time ≤ r'.ready) (hEnded : r'.ended ≤ r'.ready) :
    Follows (octets ++ [o]) r' := by
  have hWhole : r'.bytes = (octets ++ [o]).map (·.octet) := by
    have hBefore := h.whole hNone
    unfold bytes at hBefore ⊢
    rw [hKept, List.map_cons, List.reverse_cons, hBefore, List.map_append]
    rfl
  refine ⟨hWhole ▸ List.prefix_rfl, fun _ => hWhole, ?_, ?_, ?_, hEnded⟩
  · intro _ a ha
    rcases List.mem_append.mp ha with ha | ha
    · exact Nat.le_trans (h.written hNone a ha) hReady
    · rw [List.mem_singleton.mp ha]
      exact hWritten
  · rw [hKept, List.pairwise_cons]
    exact ⟨fun a ha => Nat.le_trans (h.kept_le a ha) hReady, h.falling⟩
  · intro a ha
    rw [hKept] at ha
    rcases List.mem_cons.mp ha with rfl | ha
    · exact Nat.le_refl _
    · exact Nat.le_trans (h.kept_le a ha) hReady

/-- One octet more: it is left where it is, it belongs to the last read, or to a read of its own. -/
theorem Follows.take {octets : List TimedOctet} {r : Reader} (h : Follows octets r)
    (pace : Nat → ReadTimes) (o : TimedOctet) : Follows (octets ++ [o]) (r.take pace o) := by
  unfold Reader.take
  by_cases hFault : r.fault.isSome
  · rw [if_pos hFault]
    exact h.append (Option.isSome_iff_ne_none.mp hFault) o
  have hNone : r.fault = none := Option.not_isSome_iff_eq_none.mp hFault
  rw [if_neg hFault]
  by_cases hRoom : 0 < r.room ∧ o.time ≤ r.ended
  · rw [if_pos hRoom]
    exact h.keep hNone rfl (Nat.le_refl _) (Nat.le_trans hRoom.2 h.ended_le) h.ended_le
  rw [if_neg hRoom]
  cases hFailure : r.failure (pace r.reads) with
  | some fault =>
    have hStopped : Follows octets { r with fault := some fault } :=
      ⟨h.beginning, nofun, nofun, h.falling, h.kept_le, h.ended_le⟩
    simpa only [hFailure] using hStopped.append (by simp) o
  | none =>
    simp only [hFailure]
    refine h.keep hNone rfl ?_ ?_ ?_
    · dsimp only
      omega
    · dsimp only
      omega
    · dsimp only
      omega

theorem run_concat (pace : Nat → ReadTimes) (octets : List TimedOctet) (o : TimedOctet) :
    run pace (octets ++ [o]) = (run pace octets).take pace o := by
  unfold run
  rw [List.foldl_append, List.foldl_cons, List.foldl_nil]

theorem follows_run (pace : Nat → ReadTimes) (octets : List TimedOctet) :
    Follows octets (run pace octets) := by
  induction octets using List.reverseRecOn with
  | nil => exact follows_nil
  | append_singleton octets o ih =>
    rw [run_concat]
    exact ih.take pace o

theorem held_eq (r : Reader) (t : Nat) :
    r.held t = ((r.kept.filter (·.time ≤ t)).map (·.octet)).reverse := rfl

/-- A reader that follows a pipe has a beginning of the stream at every time. -/
theorem Follows.held_isPrefix {octets : List TimedOctet} {r : Reader} (h : Follows octets r)
    (t : Nat) : r.held t <+: octets.map (·.octet) := by
  have hSuffix := (filter_time_suffix t h.falling).map (·.octet)
  exact (List.reverse_prefix.mpr hSuffix).trans h.beginning

/-- A reader that no read has failed has the whole stream when all has been put away. -/
theorem Follows.held_of_ready_le {octets : List TimedOctet} {r : Reader} (h : Follows octets r)
    (hNone : r.fault = none) {t : Nat} (hReady : r.ready ≤ t) :
    r.held t = octets.map (·.octet) := by
  have hAll : ∀ o ∈ r.kept, decide (o.time ≤ t) = true := fun o ho =>
    decide_eq_true (Nat.le_trans (h.kept_le o ho) hReady)
  rw [held_eq, List.filter_eq_self.mpr hAll]
  exact h.whole hNone

/-- The signal of an end is given after the pipe was closed and after everything was put away, by a
reader that no read has failed. -/
theorem signal_eq_ok {pace : Nat → ReadTimes} {r : Reader} {closes : Option Nat} {t : Nat}
    (h : r.signal pace closes = some (t, .ok ())) :
    r.fault = none ∧ r.ready ≤ t ∧ ∃ e ≤ t, closes = some e := by
  simp only [signal] at h
  cases hFault : r.fault with
  | some fault =>
    rw [hFault] at h
    cases h
  | none =>
    rw [hFault, Option.none_or] at h
    cases hFailure : r.failure (pace r.reads) with
    | some fault =>
      rw [hFailure] at h
      cases h
    | none =>
      rw [hFailure] at h
      obtain ⟨e, hClosed, hTime⟩ := Option.map_eq_some_iff.mp h
      obtain ⟨hTime, -⟩ := Prod.mk.inj hTime
      refine ⟨rfl, ?_, e, ?_, hClosed⟩
      · omega
      · omega

/-! ## Readers whose reads do not fail -/

theorem failure_faultless {pace : Nat → ReadTimes} (hPace : ∀ i, (pace i).fault = none)
    (r : Reader) : r.failure (pace r.reads) = none := by
  unfold failure
  rw [hPace]
  rfl

theorem take_faultless {pace : Nat → ReadTimes} (hPace : ∀ i, (pace i).fault = none) {r : Reader}
    (h : r.fault = none) (o : TimedOctet) : (r.take pace o).fault = none := by
  have hFailure := failure_faultless hPace r
  unfold Reader.take
  rw [h]
  simp only [Option.isSome_none, Bool.false_eq_true, if_false, hFailure]
  split
  · rfl
  · rfl

theorem run_faultless {pace : Nat → ReadTimes} (hPace : ∀ i, (pace i).fault = none)
    (octets : List TimedOctet) : (run pace octets).fault = none := by
  induction octets using List.reverseRecOn with
  | nil => rfl
  | append_singleton octets o ih =>
    rw [run_concat]
    exact take_faultless hPace ih o

theorem signal_faultless {pace : Nat → ReadTimes} (hPace : ∀ i, (pace i).fault = none)
    {octets : List TimedOctet} {closes : Option Nat} {t : Nat}
    {end? : Except Host.SystemError Unit}
    (h : (run pace octets).signal pace closes = some (t, end?)) : end? = .ok () := by
  simp only [signal, run_faultless hPace octets, failure_faultless hPace, Option.none_or] at h
  obtain ⟨e, -, hEnd⟩ := Option.map_eq_some_iff.mp h
  exact (Prod.mk.inj hEnd).2.symm

end Reader

end BindingCoverage.Extractor
