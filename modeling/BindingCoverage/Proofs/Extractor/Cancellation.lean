import BindingCoverage.Proofs.Extractor.Polling
import BindingCoverage.Proofs.Extractor.Reader

/-!
# Cancelling a run

The runner would notice a flag at the first look at the process that reads it when it is raised
(`Schedule.Notices`). There always is such a look (`Schedule.exists_notices`), though the wait for
the process may be over before it.

* `drain_killed`: after a kill the run is over within the runner's patience.
* `wait_broken_off`: a flag that is noticed while the process runs ends the wait for it, with a
  kill.
* `run_undisturbed`: a flag that would be noticed later has no effect on the run.
* `run_cancel`: both. `run_lingering` is a run of the second kind, whose pipes stay open for long.
-/

namespace BindingCoverage.Extractor

/-! ## Waits with a deadline -/

/-- How long the runner takes for a wait, but for what it waits. -/
def FinishTimes.total (times : FinishTimes) : Nat := times.ask + times.late + times.wake

/-- How long a run goes on at most after its process group is killed. -/
def Schedule.patience (s : Schedule) : Nat :=
  s.reap + s.deadline + killGrace + (Host.Stream.all.map fun x => (s.finishes x).total).sum + s.take

/-- A wait with a deadline is over soon after that, if no read fails. -/
theorem finish_before (times : FinishTimes) (d now : Nat)
    {signal : Option (Nat × Except Host.SystemError Unit)}
    (hSignal : ∀ t end?, signal = some (t, end?) → end? = .ok ()) :
    ∃ closed now', finish times (some d) signal now = some (.ok closed, now') ∧
      now' ≤ max now d + times.total := by
  unfold finish FinishTimes.total
  cases signal with
  | none => exact ⟨false, _, rfl, by omega⟩
  | some given =>
    obtain ⟨t, end?⟩ := given
    obtain rfl := hSignal t end? rfl
    dsimp only
    split
    · next hTime => exact ⟨true, _, rfl, by omega⟩
    · exact ⟨false, _, rfl, by omega⟩

/-- The induction is on the readers; each wait adds no more than its own time. -/
theorem finishAll_before (s : Schedule) (d : Nat)
    {signal : Host.Stream → Option (Nat × Except Host.SystemError Unit)}
    (hSignal : ∀ x t end?, signal x = some (t, end?) → end? = .ok ()) (streams : List Host.Stream) :
    ∀ now, ∃ closed now', finishAll s (some d) signal streams now = some (.ok closed, now') ∧
      now' ≤ max now d + (streams.map fun x => (s.finishes x).total).sum := by
  induction streams with
  | nil => intro now; exact ⟨true, now, rfl, Nat.le_add_right_of_le (Nat.le_max_left _ _)⟩
  | cons x rest ih =>
    intro now
    obtain ⟨closed, now', hFirst, hNow⟩ := finish_before (s.finishes x) d now (hSignal x)
    obtain ⟨others, now'', hOthers, hNow'⟩ := ih now'
    refine ⟨closed && others, now'', ?_, ?_⟩
    · simp only [finishAll, hFirst, hOthers]
      rfl
    · rw [List.map_cons, List.sum_cons]
      omega

/-- A moment can be expressed if a later one can. -/
theorem Instant.after?_of_le {i : Instant} {m n : Nat} (h : m ≤ n) (hLater : i.after? n ≠ none) :
    i.after? m ≠ none := by
  unfold after? at hLater ⊢
  dsimp only at hLater ⊢
  have hSeconds : (i.nanos + m) / 1000000000 ≤ (i.nanos + n) / 1000000000 :=
    Nat.div_le_div_right (Nat.add_le_add_left h i.nanos)
  split at hLater
  · next hFits =>
    have hFits' : i.seconds + ((i.nanos + m) / 1000000000 : Nat) ≤ greatestSecond := by omega
    rw [if_pos hFits']
    exact Option.some_ne_none _
  · exact absurd rfl hLater

theorem deadline_killed {s : Schedule} {verdict : Verdict} (l : Limits) {now : Nat}
    (hVerdict : ∀ status, verdict ≠ .exited status)
    (hClock : s.start.after? (now + killGrace) ≠ none) :
    deadline l s verdict now = some (some (now + killGrace)) := by
  unfold deadline
  cases hAfter : s.start.after? (now + killGrace) with
  | none => exact absurd hAfter hClock
  | some i =>
    cases verdict with
    | exited status => exact absurd rfl (hVerdict status)
    | timedOut limit => rfl
    | cancelled => rfl

theorem amend_killed {verdict : Verdict} (l : Limits) (closed : Bool)
    (hVerdict : ∀ status, verdict ≠ .exited status) : amend l verdict closed = verdict := by
  cases verdict with
  | exited status => exact absurd rfl (hVerdict status)
  | timedOut limit => rfl
  | cancelled => rfl

theorem drain_killed {s : Schedule} {verdict : Verdict} (l : Limits) (program : String)
    (c : Course) (kill : Nat) (hVerdict : ∀ status, verdict ≠ .exited status)
    (hReads : ∀ x i, (s.paces x i).fault = none)
    (hClock : s.start.after? (kill + s.patience) ≠ none) :
    ∃ a read, drain l program c s verdict (some kill) (kill + s.reap) = some (.returned a) ∧
      a.result = conclude program verdict read ∧ a.kills = [kill] ∧
        a.ended ≤ kill + s.patience := by
  have hGrace : s.start.after? (kill + s.reap + s.deadline + killGrace) ≠ none :=
    Instant.after?_of_le (by unfold Schedule.patience; omega) hClock
  have hSignal : ∀ x t end?, signalOf c s (some kill) x = some (t, end?) → end? = .ok () :=
    fun x _ _ h => Reader.signal_faultless (hReads x) h
  obtain ⟨closed, now, hFinished, hNow⟩ := finishAll_before s
    (kill + s.reap + s.deadline + killGrace) hSignal Host.Stream.all (kill + s.reap + s.deadline)
  have hAmend := amend_killed l closed hVerdict
  let read := fun x => (readerOf c s (some kill) x).held (now + s.take)
  refine ⟨⟨conclude program verdict read, [kill], now + s.take⟩, read, ?_, rfl, rfl, ?_⟩
  · simp only [drain, deadline_killed l hVerdict hGrace, hFinished, hAmend, if_true]
    rfl
  · rw [Nat.max_eq_right (Nat.le_add_right _ _)] at hNow
    unfold Schedule.patience
    dsimp only
    omega

/-! ## Noticing the flag -/

/-- Look `n` is the first one at which the flag is read when it is raised. -/
structure Schedule.Notices (s : Schedule) (raised n : Nat) : Prop where
  read : raised ≤ s.flagAt n
  before : ∀ i < n, s.flagAt i < raised

theorem Schedule.exists_notices (s : Schedule) (raised : Nat) : ∃ n, s.Notices raised n := by
  have hLate : ∃ n, raised ≤ s.flagAt n := by
    refine ⟨raised, (Nat.le_mul_of_pos_right raised (by decide : 0 < pollInterval)).trans ?_⟩
    exact (s.mul_le_lookAt raised).trans
      ((s.lookAt_le_clockAt raised).trans (s.clockAt_le_flagAt raised))
  exact ⟨Nat.find hLate, Nat.find_spec hLate, fun i hi => Nat.lt_of_not_le (Nat.find_min hLate hi)⟩

/-- The flag is noticed within an interval, and the time that the look takes. -/
theorem Schedule.Notices.flagAt_le {s : Schedule} {raised n : Nat} (h : s.Notices raised n) :
    s.flagAt n ≤ raised + pollInterval + (s.polls n).total := by
  cases n with
  | zero =>
    unfold flagAt clockAt lookAt PollTimes.total turn
    omega
  | succ n =>
    have hBefore := h.before n (Nat.lt_succ_self n)
    unfold flagAt clockAt lookAt PollTimes.total
    rw [turn_succ]
    omega

variable {l : Limits} {c : Course} {s : Schedule} {raised n : Nat}

/-- The verdict of a look that finds the process running, with the flag raised. -/
def broken (l : Limits) (s : Schedule) (n : Nat) : Verdict :=
  match l.timeout.filter (·.nanos ≤ s.clockAt n) with
  | some limit => .timedOut limit
  | none => .cancelled

theorem broken_ne_exited (l : Limits) (s : Schedule) (n : Nat) (status : Host.ExitStatus) :
    broken l s n ≠ .exited status := by
  unfold broken
  split
  · nofun
  · nofun

theorem cancellable_of_raise (h : s.raise l = some raised) : l.cancellable = true := by
  unfold Schedule.raise at h
  split at h
  · next hCancellable => exact hCancellable
  · cases h

/-- A flag that is noticed while the process runs ends the wait, unless the time is up at this look
or one before. -/
theorem wait_broken_off (hRaised : s.raise l = some raised) (hNotices : s.Notices raised n)
    (hCalls : s.fault = none) (hRunning : c.endedBy (s.lookAt n) = none) :
    ∃ kill ≤ s.flagAt n,
      wait l c s (looks l c s) = some ⟨.ok (broken l s n), some kill, kill + s.reap⟩ := by
  have hEnds : endAt l c s n ≠ none := fun h =>
    absurd hNotices.read (Nat.not_le_of_lt ((endAt_eq_none_iff.mp h).2.2.2 raised hRaised))
  obtain ⟨m, w, hm, hEnd, hBefore⟩ := exists_first hEnds
  have hWait := wait_of_first (cancellable_of_raise hRaised) hEnd hBefore
  have hRunning' : c.endedBy (s.lookAt m) = none := endedBy_of_le (s.lookAt_mono hm) hRunning
  rcases late_or_called hRunning' (not_passes_of_endAt hCalls hEnd) with
    ⟨limit, hLimit, hTime⟩ | ⟨hEarly, raised', hRaise, hRead⟩
  · have hUp : limit.nanos ≤ s.clockAt n := hTime.trans (s.clockAt_mono hm)
    have hBroken : broken l s n = .timedOut limit := by
      unfold broken
      rw [Option.filter_eq_some_iff.mpr ⟨hLimit, decide_eq_true hUp⟩]
    cases (endAt_of_late hCalls hRunning' hLimit hTime).symm.trans hEnd
    refine ⟨s.clockAt m, (s.clockAt_mono hm).trans (s.clockAt_le_flagAt n), ?_⟩
    rw [hWait, hBroken]
  · obtain rfl := Option.some.inj (hRaised.symm.trans hRaise)
    have hLast : m = n := by
      by_contra hOther
      have hUnraised := hNotices.before m (Nat.lt_of_le_of_ne hm hOther)
      exact absurd hRead (Nat.not_le_of_lt hUnraised)
    subst hLast
    have hBroken : broken l s m = .cancelled := by
      unfold broken
      rw [filter_timeout_eq_none_iff.mpr hEarly]
    cases (endAt_of_called hCalls hRunning' hEarly hRaised hRead).symm.trans hEnd
    refine ⟨s.flagAt m, Nat.le_refl _, ?_⟩
    rw [hWait, hBroken]

/-- A look ends the wait in the same way without a flag if it does not find the flag raised, or
finds that the process has ended. -/
theorem endAt_without_flag
    (h : (∀ raised, s.raise l = some raised → s.flagAt n < raised) ∨
      c.endedBy (s.lookAt n) ≠ none) :
    endAt l c { s with cancel := none } n = endAt l c s n := by
  have hFailure (i : Nat) : Schedule.failure { s with cancel := none } i = s.failure i := rfl
  have hLook : Schedule.lookAt { s with cancel := none } n = s.lookAt n := rfl
  simp only [endAt, hFailure, hLook]
  cases s.failure n with
  | some e => rfl
  | none =>
    cases hEnded : c.endedBy (s.lookAt n) with
    | some status => rfl
    | none =>
      have hUnset : (s.raise l).any (· ≤ s.flagAt n) = false := by
        rcases h with h | h
        · cases hRaise : s.raise l with
          | none => rfl
          | some raised => exact decide_eq_false (Nat.not_le_of_lt (h raised hRaise))
        · exact absurd hEnded h
      have hGone : Schedule.raise { s with cancel := none } l = none := by
        unfold Schedule.raise
        split
        · rfl
        · rfl
      have hExpired : expired l { s with cancel := none } (s.polls n) (s.lookAt n) =
          expired l s (s.polls n) (s.lookAt n) := by
        rw [expired_eq]
        refine (expired_eq l { s with cancel := none } n).trans ?_
        rw [hGone, hUnset]
        rfl
      rw [hExpired]

/-- A flag that is noticed only when the process has been seen to end has no effect on the run. -/
theorem run_undisturbed (program : String) (hRaised : s.raise l = some raised)
    (hNotices : s.Notices raised n) (hEnded : c.endedBy (s.lookAt n) ≠ none) :
    run l program c s = run l program c { s with cancel := none } := by
  have hEnds : endAt l c s n ≠ none := fun h => hEnded (endAt_eq_none_iff.mp h).2.1
  obtain ⟨m, w, hm, hEnd, hBefore⟩ := exists_first hEnds
  have hSame : ∀ i ≤ n, endAt l c { s with cancel := none } i = endAt l c s i := by
    intro i hi
    rcases Nat.eq_or_lt_of_le hi with rfl | hi
    · exact endAt_without_flag (.inr hEnded)
    · refine endAt_without_flag (.inl fun raised' hRaised' => ?_)
      obtain rfl := Option.some.inj (hRaised.symm.trans hRaised')
      exact hNotices.before i hi
  have hPolled := cancellable_of_raise hRaised
  have hWait := wait_of_first hPolled hEnd hBefore
  have hWait' : wait l c { s with cancel := none } (looks l c { s with cancel := none }) = some w :=
    wait_of_first hPolled ((hSame m hm).trans hEnd) fun i hi =>
      (hSame i (hi.le.trans hm)).trans (hBefore i hi)
  unfold run
  rw [hWait, hWait']
  rfl

/-- A flag that is noticed while the process runs breaks the run off, soon after it is raised. One
that is noticed only when the process has been seen to end is never heeded, however long the pipes
stay open. -/
theorem run_cancel (program : String) (hRaised : s.raise l = some raised)
    (hNotices : s.Notices raised n) (hCalls : s.fault = none)
    (hReads : ∀ x i, (s.paces x i).fault = none)
    (hClock : s.start.after? (s.flagAt n + s.patience) ≠ none) :
    (c.endedBy (s.lookAt n) = none → ∃ a kill, run l program c s = some (.returned a) ∧
      a.kills = [kill] ∧ kill ≤ raised + pollInterval + (s.polls n).total ∧
      a.ended ≤ kill + s.patience ∧ ∃ stderr, a.result = .error
        (match l.timeout.filter (·.nanos ≤ s.clockAt n) with
          | some limit => .timedOut program limit stderr
          | none => .cancelled program stderr)) ∧
    (c.endedBy (s.lookAt n) ≠ none →
      run l program c s = run l program c { s with cancel := none }) := by
  refine ⟨fun hRunning => ?_, run_undisturbed program hRaised hNotices⟩
  obtain ⟨kill, hKill, hWait⟩ := wait_broken_off hRaised hNotices hCalls hRunning
  obtain ⟨a, read, hDrain, hResult, hKills, hEnded⟩ := drain_killed l program c kill
    (broken_ne_exited l s n) hReads
    (Instant.after?_of_le (Nat.add_le_add_right hKill _) hClock)
  refine ⟨a, kill, ?_, hKills, hKill.trans hNotices.flagAt_le, hEnded,
    Utf8.lossy (read .stderr), ?_⟩
  · unfold run
    rw [hWait]
    exact hDrain
  · rw [hResult]
    unfold broken
    split
    · rfl
    · rfl

/-! ## A process that leaves another one in its group behind -/

/-- A process ends after five milliseconds. Another one of its group holds the pipes for two
seconds. -/
def lingering : Course where
  exit := some (5000000, .exited 0)
  stdout := { writes := [⟨1000000, "ok", false⟩], closes := some 2000000000 }
  stderr := { closes := some 2000000000 }

/-- The same without an end of the process. -/
def waiting : Course := { lingering with exit := none }

def cancelledAt (time : Nat) : Schedule where
  start := ⟨1000, 0⟩
  cancel := some time

/-- The flag is raised after 25 milliseconds, and noticed at the look after 30. -/
theorem run_cancel_lingering :
    (∃ a kill, run ⟨some (.ofMillis 300), true⟩ "sh" waiting (cancelledAt 25000000) =
        some (.returned a) ∧ a.kills = [kill] ∧ kill ≤ 35000000 ∧ a.ended ≤ kill + 100000000 ∧
      ∃ stderr, a.result = .error (.cancelled "sh" stderr)) ∧
    run ⟨none, true⟩ "sh" lingering (cancelledAt 25000000) =
      run ⟨none, true⟩ "sh" lingering { cancelledAt 25000000 with cancel := none } := by
  have hNotices : (cancelledAt 25000000).Notices 25000000 3 := ⟨by decide, by decide⟩
  exact ⟨(run_cancel "sh" rfl hNotices rfl (fun _ _ => rfl) (by decide)).1 rfl,
    (run_cancel "sh" rfl hNotices rfl (fun _ _ => rfl) (by decide)).2 (by decide)⟩

/-- The flag is raised after half a second, when the pipes would stay open for long, and killing the
group would close them. The runner waits for the process that is left behind all the same, or until
the time is up. -/
theorem run_lingering :
    (∀ timeout, (cancelledAt 500000000).raise ⟨timeout, true⟩ = some 500000000) ∧
    (∀ x, (lingering.pipe x).closing none = some 2000000000 ∧
      (lingering.pipe x).closing (some 500000000) = some 500000000) ∧
    500000000 + pollInterval + killGrace < 1000000000 ∧
    run ⟨none, true⟩ "sh" lingering (cancelledAt 500000000) =
      some (.returned ⟨.ok [111, 107], [], 2000000000⟩) ∧
    run ⟨some (.ofMillis 1000), true⟩ "sh" lingering (cancelledAt 500000000) =
      some (.returned ⟨.error (.timedOut "sh" (.ofMillis 1000) ""), [1000000000], 1000000000⟩) := by
  refine ⟨fun _ => rfl, ?_, by decide, rfl, rfl⟩
  intro x
  cases x with
  | stdout => exact ⟨rfl, rfl⟩
  | stderr => exact ⟨rfl, rfl⟩

end BindingCoverage.Extractor
