import Mathlib
import BindingCoverage.Extractor.Runner

/-!
# Looks at a process

* `Schedule.lookAt`, `Schedule.clockAt`, `Schedule.flagAt`: when the parts of a look happen.
* `endAt`: what a look ends the wait for the process with.
* `Passes`, `endAt_of_ended`, `endAt_of_late`, `endAt_of_called`: the four ways in which a look goes
  when no call fails.
* `wait_eq_some_iff_first`: the wait is ended by the first look that ends it; the looks that the
  runner is given are enough for that.
-/

namespace BindingCoverage.Extractor

/-! ## Moments of a look -/

namespace PollTimes

/-- How long the runner takes for a look. -/
def total (times : PollTimes) : Nat := times.look + times.clock + times.flag

end PollTimes

namespace Schedule

/-- When the runner turns to the process for look `n`. -/
def turn (polls : Nat → PollTimes) : Nat → Nat
  | 0 => 0
  | n + 1 => turn polls n + (polls n).look + (polls n).clock + (polls n).flag + pollInterval

variable (s : Schedule)

/-- When look `n` asks whether the process has ended. -/
def lookAt (n : Nat) : Nat := turn s.polls n + (s.polls n).look

/-- When look `n` asks for the time. -/
def clockAt (n : Nat) : Nat := s.lookAt n + (s.polls n).clock

/-- When look `n` reads the flag. -/
def flagAt (n : Nat) : Nat := s.clockAt n + (s.polls n).flag

theorem turn_succ (n : Nat) : turn s.polls (n + 1) = s.flagAt n + pollInterval := rfl

theorem turn_le_flagAt (n : Nat) : turn s.polls n ≤ s.flagAt n := by
  unfold flagAt clockAt lookAt
  omega

theorem lookAt_le_clockAt (n : Nat) : s.lookAt n ≤ s.clockAt n := Nat.le_add_right _ _

theorem clockAt_le_flagAt (n : Nat) : s.clockAt n ≤ s.flagAt n := Nat.le_add_right _ _

theorem flagAt_le_lookAt_succ (n : Nat) : s.flagAt n ≤ s.lookAt (n + 1) := by
  unfold lookAt
  rw [turn_succ]
  omega

theorem lookAt_mono : Monotone s.lookAt := monotone_nat_of_le_succ fun n =>
  (s.lookAt_le_clockAt n).trans ((s.clockAt_le_flagAt n).trans (s.flagAt_le_lookAt_succ n))

theorem clockAt_mono : Monotone s.clockAt := monotone_nat_of_le_succ fun n =>
  (s.clockAt_le_flagAt n).trans
    ((s.flagAt_le_lookAt_succ n).trans (s.lookAt_le_clockAt (n + 1)))

theorem mul_le_lookAt (n : Nat) : n * pollInterval ≤ s.lookAt n := by
  have hTurn : n * pollInterval ≤ turn s.polls n := by
    induction n with
    | zero => exact Nat.zero_le _
    | succ n ih =>
      have hFlag := s.turn_le_flagAt n
      rw [turn_succ, Nat.succ_mul]
      omega
  exact hTurn.trans (Nat.le_add_right _ _)

end Schedule

/-! ## What a look leads to -/

variable {l : Limits} {c : Course} {s : Schedule} {n : Nat}

/-- What look `n` ends the wait for the process with, if it does. -/
def endAt (l : Limits) (c : Course) (s : Schedule) (n : Nat) : Option Waited :=
  match s.failure n, c.endedBy (s.lookAt n) with
  | some e, _ => some ⟨.error e, none, s.lookAt n⟩
  | none, some status => some ⟨.ok (.exited status), none, s.lookAt n⟩
  | none, none =>
    match expired l s (s.polls n) (s.lookAt n) with
    | (_, none) => none
    | (now, some verdict) =>
      match s.failure (n + 1) with
      | some e => some ⟨.error e, some now, now + s.reap⟩
      | none => some ⟨.ok verdict, some now, now + s.reap⟩

theorem expired_eq (l : Limits) (s : Schedule) (n : Nat) :
    expired l s (s.polls n) (s.lookAt n) =
      match l.timeout.filter (·.nanos ≤ s.clockAt n) with
      | some limit => (s.clockAt n, some (.timedOut limit))
      | none =>
        (s.flagAt n, if (s.raise l).any (· ≤ s.flagAt n) then some .cancelled else none) := rfl

theorem filter_timeout_eq_none_iff {t : Nat} :
    l.timeout.filter (·.nanos ≤ t) = none ↔
      ∀ limit, l.timeout = some limit → t < limit.nanos := by
  simp [Option.filter_eq_none_iff]

theorem expired_eq_none_iff :
    (expired l s (s.polls n) (s.lookAt n)).2 = none ↔
      (∀ limit, l.timeout = some limit → s.clockAt n < limit.nanos) ∧
        ∀ raised, s.raise l = some raised → s.flagAt n < raised := by
  rw [expired_eq]
  split
  · next limit hLimit =>
    obtain ⟨hLimit, hTime⟩ := Option.filter_eq_some_iff.mp hLimit
    have hLate : limit.nanos ≤ s.clockAt n := of_decide_eq_true hTime
    exact iff_of_false nofun fun h => absurd (h.1 limit hLimit) (Nat.not_lt.mpr hLate)
  · next hLimit =>
    rw [and_iff_right (filter_timeout_eq_none_iff.mp hLimit), ite_eq_right_iff]
    cases s.raise l with
    | none => exact iff_of_true nofun nofun
    | some raised => simp

/-- When a look does not end the wait. -/
theorem endAt_eq_none_iff :
    endAt l c s n = none ↔ s.failure n = none ∧ c.endedBy (s.lookAt n) = none ∧
      (∀ limit, l.timeout = some limit → s.clockAt n < limit.nanos) ∧
        ∀ raised, s.raise l = some raised → s.flagAt n < raised := by
  rw [← expired_eq_none_iff]
  unfold endAt
  cases s.failure n with
  | some e => simp
  | none =>
    cases c.endedBy (s.lookAt n) with
    | some status => simp
    | none =>
      cases expired l s (s.polls n) (s.lookAt n) with
      | mk now verdict =>
        cases verdict with
        | none => simp
        | some verdict => cases s.failure (n + 1) <;> simp

/-! ## Looks when no call fails -/

/-- Look `n` finds the process running, the limit not reached, and the flag not raised. -/
structure Passes (l : Limits) (c : Course) (s : Schedule) (n : Nat) : Prop where
  running : c.endedBy (s.lookAt n) = none
  early : ∀ limit, l.timeout = some limit → s.clockAt n < limit.nanos
  lowered : ∀ raised, s.raise l = some raised → s.flagAt n < raised

theorem failure_faultless (hCalls : s.fault = none) (i : Nat) : s.failure i = none := by
  rw [Schedule.failure, hCalls]

theorem endAt_eq_none_iff_passes (hCalls : s.fault = none) :
    endAt l c s n = none ↔ Passes l c s n := by
  rw [endAt_eq_none_iff]
  constructor
  · rintro ⟨-, hRunning, hEarly, hLowered⟩
    exact ⟨hRunning, hEarly, hLowered⟩
  · rintro ⟨hRunning, hEarly, hLowered⟩
    exact ⟨failure_faultless hCalls n, hRunning, hEarly, hLowered⟩

theorem not_passes_of_endAt {w : Waited} (hCalls : s.fault = none) (hEnd : endAt l c s n = some w) :
    ¬ Passes l c s n := by
  intro h
  rw [(endAt_eq_none_iff_passes hCalls).mpr h] at hEnd
  cases hEnd

theorem endAt_of_ended (hCalls : s.fault = none) {status : Host.ExitStatus}
    (hEnded : c.endedBy (s.lookAt n) = some status) :
    endAt l c s n = some ⟨.ok (.exited status), none, s.lookAt n⟩ := by
  unfold endAt
  rw [failure_faultless hCalls, hEnded]

theorem endAt_of_late (hCalls : s.fault = none) (hRunning : c.endedBy (s.lookAt n) = none)
    {limit : Duration} (hLimit : l.timeout = some limit) (hTime : limit.nanos ≤ s.clockAt n) :
    endAt l c s n =
      some ⟨.ok (.timedOut limit), some (s.clockAt n), s.clockAt n + s.reap⟩ := by
  have hUp : l.timeout.filter (·.nanos ≤ s.clockAt n) = some limit :=
    Option.filter_eq_some_iff.mpr ⟨hLimit, decide_eq_true hTime⟩
  unfold endAt
  rw [failure_faultless hCalls, hRunning, expired_eq, hUp]
  simp only [failure_faultless hCalls]

theorem endAt_of_called (hCalls : s.fault = none) (hRunning : c.endedBy (s.lookAt n) = none)
    (hEarly : ∀ limit, l.timeout = some limit → s.clockAt n < limit.nanos) {raised : Nat}
    (hRaise : s.raise l = some raised) (hRead : raised ≤ s.flagAt n) :
    endAt l c s n = some ⟨.ok .cancelled, some (s.flagAt n), s.flagAt n + s.reap⟩ := by
  have hFlag : (s.raise l).any (· ≤ s.flagAt n) = true := by
    rw [hRaise]
    exact decide_eq_true hRead
  unfold endAt
  rw [failure_faultless hCalls, hRunning, expired_eq,
    filter_timeout_eq_none_iff.mpr hEarly]
  simp only [hFlag, if_true, failure_faultless hCalls]

/-- A look at a running process that does not let it pass finds the limit reached, or else the flag
raised. -/
theorem late_or_called (hRunning : c.endedBy (s.lookAt n) = none) (h : ¬ Passes l c s n) :
    (∃ limit, l.timeout = some limit ∧ limit.nanos ≤ s.clockAt n) ∨
      (∀ limit, l.timeout = some limit → s.clockAt n < limit.nanos) ∧
        ∃ raised, s.raise l = some raised ∧ raised ≤ s.flagAt n := by
  by_cases hEarly : ∀ limit, l.timeout = some limit → s.clockAt n < limit.nanos
  · refine .inr ⟨hEarly, ?_⟩
    by_contra hNone
    refine h ⟨hRunning, hEarly, fun raised hRaise => Nat.lt_of_not_le fun hRead => ?_⟩
    exact hNone ⟨raised, hRaise, hRead⟩
  · simp only [not_forall, Nat.not_lt] at hEarly
    obtain ⟨limit, hLimit, hTime⟩ := hEarly
    exact .inl ⟨limit, hLimit, hTime⟩

/-! ## The first look that ends the wait -/

theorem poll_succ (l : Limits) (c : Course) (s : Schedule) (fuel n : Nat) :
    poll l c s (fuel + 1) n (Schedule.turn s.polls n) =
      (endAt l c s n).or (poll l c s fuel (n + 1) (Schedule.turn s.polls (n + 1))) := by
  change (match s.failure n, c.endedBy (s.lookAt n) with
    | some e, _ => _
    | none, some status => _
    | none, none => _) = _
  unfold endAt
  cases s.failure n with
  | some e => rfl
  | none =>
    cases c.endedBy (s.lookAt n) with
    | some status => rfl
    | none =>
      change (match expired l s (s.polls n) (s.lookAt n) with
        | (now, none) => _
        | (now, some verdict) => _) = _
      dsimp only
      rw [expired_eq]
      cases l.timeout.filter (·.nanos ≤ s.clockAt n) with
      | some limit => cases s.failure (n + 1) <;> rfl
      | none =>
        cases (s.raise l).any (· ≤ s.flagAt n) with
        | false => rfl
        | true => cases s.failure (n + 1) <;> rfl

/-- The wait is over with the first look that ends it. The induction is on the looks before that
one. -/
theorem poll_of_first {w : Waited} (hEnd : endAt l c s n = some w) :
    ∀ {k fuel : Nat}, k ≤ n → n - k < fuel → (∀ i, k ≤ i → i < n → endAt l c s i = none) →
      poll l c s fuel k (Schedule.turn s.polls k) = some w := by
  intro k fuel hk
  induction fuel generalizing k with
  | zero =>
    intro hFuel
    exact absurd hFuel (Nat.not_lt_zero _)
  | succ fuel ih =>
    intro hFuel hBefore
    rw [poll_succ]
    rcases Nat.eq_or_lt_of_le hk with rfl | hk
    · rw [hEnd]
      rfl
    · rw [hBefore k (Nat.le_refl _) hk, Option.none_or]
      exact ih hk (by omega) fun i hi => hBefore i (Nat.le_of_succ_le hi)

/-! ## Enough looks -/

theorem earlier_eq_some {a b : Option Nat} {t : Nat} (h : earlier a b = some t) :
    a = some t ∨ b = some t := by
  cases a with
  | none => cases b <;> simp_all [earlier]
  | some x =>
    cases b with
    | none => exact .inl h
    | some y =>
      simp only [earlier, Option.some.injEq] at h ⊢
      omega

theorem earlier_eq_none {a b : Option Nat} (h : earlier a b = none) : a = none ∧ b = none := by
  cases a with
  | none => cases b <;> simp_all [earlier]
  | some x => cases b <;> simp_all [earlier]

theorem endedBy_eq_none_iff {t : Nat} :
    c.endedBy t = none ↔ ∀ e status, c.exit = some (e, status) → t < e := by
  unfold Course.endedBy
  cases c.exit with
  | none => exact iff_of_true rfl nofun
  | some exit =>
    obtain ⟨e, status⟩ := exit
    simp

theorem endedBy_of_le {t t' : Nat} (hTime : t ≤ t') (h : c.endedBy t' = none) :
    c.endedBy t = none :=
  endedBy_eq_none_iff.mpr fun e status hExit =>
    hTime.trans_lt (endedBy_eq_none_iff.mp h e status hExit)

/-- A look that does not end the wait comes before the process ends, the time is up, and the flag is
raised. -/
theorem lookAt_lt {t : Nat} (h : endAt l c s n = none)
    (hUntil : earlier (c.exit.map (·.1)) (earlier (l.timeout.map (·.nanos)) (s.raise l)) = some t) :
    s.lookAt n < t := by
  obtain ⟨-, hRunning, hLimit, hFlag⟩ := endAt_eq_none_iff.mp h
  have hClock := s.lookAt_le_clockAt n
  have hRead := s.clockAt_le_flagAt n
  rcases earlier_eq_some hUntil with hExit | hUntil
  · obtain ⟨⟨e, status⟩, hEnd, rfl⟩ := Option.map_eq_some_iff.mp hExit
    exact endedBy_eq_none_iff.mp hRunning e status hEnd
  · rcases earlier_eq_some hUntil with hTimeout | hRaise
    · obtain ⟨limit, hSet, rfl⟩ := Option.map_eq_some_iff.mp hTimeout
      exact hClock.trans_lt (hLimit limit hSet)
    · exact hClock.trans_lt (hRead.trans_lt (hFlag t hRaise))

/-- No look comes more than one interval after all that would end the wait. -/
theorem index_le {t : Nat} (hBefore : ∀ i < n, endAt l c s i = none)
    (hUntil : earlier (c.exit.map (·.1)) (earlier (l.timeout.map (·.nanos)) (s.raise l)) = some t) :
    n ≤ t / pollInterval + 1 := by
  cases n with
  | zero => exact Nat.zero_le _
  | succ k =>
    have hTime : k * pollInterval ≤ t :=
      (s.mul_le_lookAt k).trans (lookAt_lt (hBefore k (Nat.lt_succ_self k)) hUntil).le
    exact Nat.succ_le_succ ((Nat.le_div_iff_mul_le (by decide)).mpr hTime)

/-- When the process never ends and there are no limits, only a failure ends the wait. -/
theorem fault_of_endless (hEnd : endAt l c s n ≠ none)
    (hUntil : earlier (c.exit.map (·.1)) (earlier (l.timeout.map (·.nanos)) (s.raise l)) = none) :
    ∃ e, s.fault = some (n, e) := by
  obtain ⟨hExit, hLimits⟩ := earlier_eq_none hUntil
  obtain ⟨hTimeout, hRaise⟩ := earlier_eq_none hLimits
  have hFailure : s.failure n ≠ none := by
    intro hFailure
    refine hEnd (endAt_eq_none_iff.mpr ⟨hFailure, ?_, ?_, ?_⟩)
    · rw [Course.endedBy, Option.map_eq_none_iff.mp hExit]
    · intro limit hLimit
      rw [hLimit] at hTimeout
      cases hTimeout
    · intro raised hRaised
      rw [hRaised] at hRaise
      cases hRaise
  unfold Schedule.failure at hFailure
  split at hFailure
  · next k e hFault =>
    split at hFailure
    · next hk => exact ⟨e, hk ▸ hFault⟩
    · exact absurd rfl hFailure
  · exact absurd rfl hFailure

/-- The first look that ends the wait is among those that the runner is given. -/
theorem lt_looks (hEnd : endAt l c s n ≠ none) (hBefore : ∀ i < n, endAt l c s i = none) :
    n < looks l c s := by
  unfold looks
  dsimp only
  cases hUntil : earlier (c.exit.map (·.1)) (earlier (l.timeout.map (·.nanos)) (s.raise l)) with
  | some t => exact Nat.lt_add_right _ (Nat.lt_succ_of_le (index_le hBefore hUntil))
  | none =>
    obtain ⟨e, hFault⟩ := fault_of_endless hEnd hUntil
    rw [hFault]
    exact Nat.lt_add_left _ (Nat.lt_succ_self n)

/-- The first look that ends a wait, if there is one at all. -/
theorem exists_first (h : endAt l c s n ≠ none) :
    ∃ m w, m ≤ n ∧ endAt l c s m = some w ∧ ∀ i < m, endAt l c s i = none := by
  have hSome : ∃ m, endAt l c s m ≠ none := ⟨n, h⟩
  obtain ⟨w, hw⟩ := Option.ne_none_iff_exists'.mp (Nat.find_spec hSome)
  exact ⟨Nat.find hSome, w, Nat.find_min' hSome h, hw,
    fun i hi => not_not.mp (Nat.find_min hSome hi)⟩

/-- Whatever ends the looks is what the first look that ends them does. -/
theorem first_of_poll {w : Waited} {k fuel : Nat}
    (h : poll l c s fuel k (Schedule.turn s.polls k) = some w) :
    ∃ m, endAt l c s m = some w ∧ ∀ i, k ≤ i → i < m → endAt l c s i = none := by
  induction fuel generalizing k with
  | zero => cases h
  | succ fuel ih =>
    rw [poll_succ] at h
    cases hEnd : endAt l c s k with
    | some w' =>
      rw [hEnd] at h
      exact ⟨k, hEnd.trans h, fun i hi hm => absurd hm (Nat.not_lt.mpr hi)⟩
    | none =>
      rw [hEnd, Option.none_or] at h
      obtain ⟨m, hm, hBefore⟩ := ih h
      refine ⟨m, hm, fun i hi him => ?_⟩
      rcases Nat.eq_or_lt_of_le hi with rfl | hi
      · exact hEnd
      · exact hBefore i hi him

/-- The runner looks at the process in intervals. -/
def Limits.Polled (l : Limits) : Prop := l.timeout ≠ none ∨ l.cancellable = true

theorem wait_of_polled (hPolled : l.Polled) (fuel : Nat) :
    wait l c s fuel = poll l c s fuel 0 0 := by
  have hLimited : (l.timeout.isNone && !l.cancellable) = false := by
    rcases hPolled with hTimeout | hFlag
    · rw [Option.isNone_eq_false_iff.mpr (Option.isSome_iff_ne_none.mpr hTimeout), Bool.false_and]
    · rw [hFlag, Bool.not_true, Bool.and_false]
  rw [wait, hLimited, if_neg Bool.false_ne_true]

/-- A wait in intervals is ended by the first look that ends it, and by nothing else. -/
theorem wait_eq_some_iff_first (hPolled : l.Polled) {w : Waited} :
    wait l c s (looks l c s) = some w ↔
      ∃ n, endAt l c s n = some w ∧ ∀ i < n, endAt l c s i = none := by
  rw [wait_of_polled hPolled]
  constructor
  · intro h
    obtain ⟨n, hEnd, hBefore⟩ := first_of_poll (k := 0) h
    exact ⟨n, hEnd, fun i => hBefore i (Nat.zero_le i)⟩
  · rintro ⟨n, hEnd, hBefore⟩
    have hLooks := lt_looks (hEnd ▸ nofun) hBefore
    exact poll_of_first hEnd (Nat.zero_le n) (by omega) fun i _ => hBefore i

theorem wait_of_first {w : Waited} (hPolled : l.cancellable = true) (hEnd : endAt l c s n = some w)
    (hBefore : ∀ i < n, endAt l c s i = none) : wait l c s (looks l c s) = some w :=
  (wait_eq_some_iff_first (.inr hPolled)).mpr ⟨n, hEnd, hBefore⟩

end BindingCoverage.Extractor
