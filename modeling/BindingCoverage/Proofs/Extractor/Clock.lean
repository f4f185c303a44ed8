import BindingCoverage.Proofs.Extractor.Verdict

/-!
# What the clock can express

The runner adds spans of time to moments: the grace to the moment at which the wait for the process
was over, and the limit to the moment at which the process was started. A run stops where such a
moment lies beyond the clock.

* `deadline_eq_none_iff`: where that is.
* `wait_ends`, `drain_ends`: with a limit nothing lasts forever.
* `Delivers`: a process succeeds within its limits. `run_of_delivers` says what becomes of its run,
  and `wait_of_exit` when its end is seen.
* `run_overflow_iff`: a run with a limit in seconds returns, unless its process was seen to end and
  the limit reaches beyond the clock, or the clock itself runs out. `run_overflow_greatest` is such
  a run.
-/

namespace BindingCoverage.Extractor

variable {l : Limits} {c : Course} {s : Schedule}

/-! ## Moments beyond the clock -/

theorem Instant.after?_eq_none_iff {i : Instant} {nanos : Nat} :
    i.after? nanos = none ↔
      greatestSecond < i.seconds + ((i.nanos + nanos) / 1000000000 : Nat) := by
  unfold after?
  dsimp only
  split
  · next hFits => exact iff_of_false nofun (Int.not_lt.mpr hFits)
  · next hBeyond => exact iff_of_true rfl (Int.not_le.mp hBeyond)

theorem Instant.after?_ofSeconds_eq_none_iff {i : Instant} {n : Nat} :
    i.after? (Duration.ofSeconds n).nanos = none ↔
      greatestSecond < i.seconds + (i.nanos / 1000000000 : Nat) + n := by
  have hWhole : (i.nanos + (Duration.ofSeconds n).nanos) / 1000000000 =
      i.nanos / 1000000000 + n := Nat.add_mul_div_right _ _ (by decide)
  rw [after?_eq_none_iff, hWhole, Nat.cast_add, Int.add_assoc]

/-- The deadline for the pipes cannot be expressed if the end of the grace cannot, or the end of the
limit on a process that has ended. -/
theorem deadline_eq_none_iff {verdict : Verdict} {now : Nat} :
    deadline l s verdict now = none ↔ s.start.after? (now + killGrace) = none ∨
      (∃ status, verdict = .exited status) ∧
        ∃ limit, l.timeout = some limit ∧ s.start.after? limit.nanos = none := by
  unfold deadline
  cases s.start.after? (now + killGrace) with
  | none => exact iff_of_true rfl (.inl rfl)
  | some i =>
    cases verdict with
    | timedOut limit => simp
    | cancelled => simp
    | exited status =>
      cases l.timeout with
      | none => simp
      | some limit => cases hLimit : s.start.after? limit.nanos <;> simp [hLimit]

theorem drain_eq_overflow_iff {program : String} {verdict : Verdict} {kill : Option Nat}
    {now : Nat} :
    drain l program c s verdict kill now = some .overflow ↔
      deadline l s verdict (now + s.deadline) = none := by
  cases hDeadline : deadline l s verdict (now + s.deadline) with
  | none =>
    simp only [drain, hDeadline]
  | some d =>
    refine iff_of_false ?_ (Option.some_ne_none d)
    intro h
    simp only [drain, hDeadline] at h
    split at h
    · cases h
    · cases h
    · cases h

/-! ## Runs with a limit end -/

/-- A look that comes late enough finds that the time is up, if no other look has ended the wait. -/
theorem wait_ends {limit : Duration} (hLimit : l.timeout = some limit) :
    ∃ w, wait l c s (looks l c s) = some w := by
  have hEnds : endAt l c s limit.nanos ≠ none := by
    intro h
    have hEarly := (endAt_eq_none_iff.mp h).2.2.1 limit hLimit
    have hLate : limit.nanos ≤ s.clockAt limit.nanos := calc
      limit.nanos ≤ limit.nanos * pollInterval := Nat.le_mul_of_pos_right _ (by decide)
      _ ≤ s.lookAt limit.nanos := s.mul_le_lookAt _
      _ ≤ s.clockAt limit.nanos := s.lookAt_le_clockAt _
    exact absurd hEarly (Nat.not_lt.mpr hLate)
  obtain ⟨m, w, -, hEnd, hBefore⟩ := exists_first hEnds
  exact ⟨w, (wait_eq_some_iff_first (polled_of_limit hLimit)).mpr ⟨m, hEnd, hBefore⟩⟩

theorem finish_ends (times : FinishTimes) (d now : Nat)
    (signal : Option (Nat × Except Host.SystemError Unit)) :
    ∃ result, finish times (some d) signal now = some result := by
  unfold finish
  cases signal with
  | none => exact ⟨_, rfl⟩
  | some given =>
    dsimp only
    split
    · exact ⟨_, rfl⟩
    · exact ⟨_, rfl⟩

theorem finishAll_ends (s : Schedule) (d : Nat)
    (signal : Host.Stream → Option (Nat × Except Host.SystemError Unit))
    (streams : List Host.Stream) (now : Nat) :
    ∃ result, finishAll s (some d) signal streams now = some result := by
  induction streams generalizing now with
  | nil => exact ⟨_, rfl⟩
  | cons x rest ih =>
    obtain ⟨⟨first, between⟩, hFirst⟩ := finish_ends (s.finishes x) d now (signal x)
    simp only [finishAll, hFirst]
    cases first with
    | error e => exact ⟨_, rfl⟩
    | ok closed =>
      obtain ⟨others, hOthers⟩ := ih between
      simp only [hOthers]
      exact ⟨_, rfl⟩

/-- With a limit there is a deadline for the pipes, whatever the verdict. -/
theorem deadline_of_limit {limit : Duration} (hLimit : l.timeout = some limit) {verdict : Verdict}
    {now : Nat} {d : Option Nat} (h : deadline l s verdict now = some d) : ∃ t, d = some t := by
  by_cases hExited : ∃ status, verdict = .exited status
  · obtain ⟨status, rfl⟩ := hExited
    exact ⟨_, deadline_exited hLimit h⟩
  · have hGrace : s.start.after? (now + killGrace) ≠ none := fun hNone =>
      absurd (deadline_eq_none_iff.mpr (.inl hNone)) (h ▸ Option.some_ne_none d)
    rw [deadline_killed l (not_exists.mp hExited) hGrace] at h
    exact ⟨_, (Option.some.inj h).symm⟩

theorem drain_ends {limit : Duration} (hLimit : l.timeout = some limit) (program : String)
    (verdict : Verdict) (kill : Option Nat) (now : Nat) :
    ∃ outcome, drain l program c s verdict kill now = some outcome := by
  cases hDeadline : deadline l s verdict (now + s.deadline) with
  | none => exact ⟨_, drain_eq_overflow_iff.mpr hDeadline⟩
  | some d =>
    obtain ⟨t, rfl⟩ := deadline_of_limit hLimit hDeadline
    obtain ⟨⟨closed, now'⟩, hFinished⟩ :=
      finishAll_ends s t (signalOf c s kill) Host.Stream.all (now + s.deadline)
    simp only [drain, hDeadline, hFinished]
    cases closed with
    | error failed => exact ⟨_, rfl⟩
    | ok closed => exact ⟨_, rfl⟩

/-! ## Processes that succeed -/

section

variable {seen : Nat} {octets : List UInt8}

/-- The process is seen to end with success within the limits, and so are its pipes; `octets` is all
that was written to its output. -/
structure Delivers (l : Limits) (c : Course) (s : Schedule) (seen : Nat) (octets : List UInt8) :
    Prop where
  ended : ∃ status, status.isSuccess = true ∧
    wait l c s (looks l c s) = some ⟨.ok (.exited status), none, seen⟩
  closed : ∀ x, ∃ t, signalOf c s none x = some (t, .ok ()) ∧
    ∀ limit, l.timeout = some limit → t ≤ max limit.nanos (seen + s.deadline + killGrace)
  written : c.stdout.stream none = octets

/-- The clock reaches to the end of the limit, and to that of the grace for a process that is seen
to end. -/
def Expressible (l : Limits) (s : Schedule) (seen : Nat) : Prop :=
  s.start.after? (seen + s.deadline + killGrace) ≠ none ∧
    ∀ limit, l.timeout = some limit → s.start.after? limit.nanos ≠ none

theorem expressible_iff (status : Host.ExitStatus) :
    Expressible l s seen ↔ deadline l s (.exited status) (seen + s.deadline) ≠ none := by
  rw [Ne, deadline_eq_none_iff, not_or, Expressible]
  refine and_congr_right fun _ => ?_
  constructor
  · rintro hLimit ⟨-, limit, hSet, hNone⟩
    exact hLimit limit hSet hNone
  · intro h limit hSet hNone
    exact h ⟨⟨status, rfl⟩, limit, hSet, hNone⟩

/-- A run of a process that succeeds gives what was written to its output, unless the clock does not
reach so far. -/
theorem run_of_delivers (h : Delivers l c s seen octets) (program : String) :
    (Expressible l s seen → ∃ ended, run l program c s = some (.returned ⟨.ok octets, [], ended⟩)) ∧
      (¬ Expressible l s seen → run l program c s = some .overflow) := by
  obtain ⟨status, hSuccess, hWait⟩ := h.ended
  have hConclude : conclude program (.exited status) (fun x => (c.pipe x).stream none) =
      .ok octets := by
    rw [conclude, if_pos hSuccess]
    exact congrArg Except.ok h.written
  rw [run_of_wait program hWait, expressible_iff status, drain_eq_overflow_iff, not_not]
  refine ⟨fun hDeadline => ?_, id⟩
  obtain ⟨d, hDeadline⟩ := Option.ne_none_iff_exists'.mp hDeadline
  rw [← hConclude]
  refine drain_in_time program hDeadline fun x => ?_
  obtain ⟨t, hSignal, hTime⟩ := h.closed x
  refine ⟨t, hSignal, fun d' hd' => ?_⟩
  obtain ⟨limit, hLimit⟩ := Option.ne_none_iff_exists'.mp
    (timeout_of_deadline hDeadline (hd' ▸ Option.some_ne_none d'))
  obtain rfl := Option.some.inj (hd'.symm.trans (deadline_exited hLimit hDeadline))
  exact hTime limit hLimit

/-- A process that ends is seen to end, at the first look after that or earlier, if no look before
it asks for the time too late and nobody raises a flag. -/
theorem wait_of_exit {e : Nat} {status : Host.ExitStatus} (hCalls : s.fault = none)
    (hExit : c.exit = some (e, status)) (hFlag : s.raise l = none)
    (hTime : ∀ n, s.lookAt n < e → ∀ limit, l.timeout = some limit → s.clockAt n < limit.nanos) :
    ∃ seen, (∀ n, e ≤ s.lookAt n → seen ≤ s.lookAt n) ∧
      wait l c s (looks l c s) = some ⟨.ok (.exited status), none, seen⟩ := by
  by_cases hPolled : l.Polled
  · have hLate : ∃ n, e ≤ s.lookAt n :=
      ⟨e, (Nat.le_mul_of_pos_right e (by decide)).trans (s.mul_le_lookAt e)⟩
    have hEnded : c.endedBy (s.lookAt (Nat.find hLate)) = some status := by
      unfold Course.endedBy
      simp only [hExit, if_pos (Nat.find_spec hLate)]
    have hBefore : ∀ i < Nat.find hLate, Passes l c s i := by
      intro i hi
      have hRunning := Nat.lt_of_not_le (Nat.find_min hLate hi)
      refine ⟨endedBy_eq_none_iff.mpr ?_, hTime i hRunning, hFlag ▸ nofun⟩
      rintro e' status' hExit'
      cases hExit.symm.trans hExit'
      exact hRunning
    exact ⟨_, fun n hn => s.lookAt_mono (Nat.find_min' hLate hn),
      wait_of_reaps hCalls (.seen hPolled hBefore hEnded)⟩
  · exact ⟨e, fun _ hn => hn, wait_of_reaps hCalls (.slept hPolled hExit)⟩

end

/-! ## Limits in seconds -/

/-- A run with a limit of any number of seconds ends, and it gives a result unless a moment lies
beyond the clock: that of the grace, which comes after the end of the wait for the process, or that
of the limit, if the process was seen to end. -/
theorem run_overflow_iff (n : UInt64) (cancellable : Bool) (program : String) (c : Course)
    (s : Schedule) :
    let l : Limits := ⟨some (.ofSeconds n.toNat), cancellable⟩
    (run l program c s = some .overflow ∨ ∃ a, run l program c s = some (.returned a)) ∧
      (run l program c s = some .overflow ↔
        ∃ verdict kill now, wait l c s (looks l c s) = some ⟨.ok verdict, kill, now⟩ ∧
          (s.start.after? (now + s.deadline + killGrace) = none ∨
            (∃ status, verdict = .exited status) ∧
              greatestSecond <
                s.start.seconds + (s.start.nanos / 1000000000 : Nat) + n.toNat)) := by
  intro l
  have hLimit : l.timeout = some (.ofSeconds n.toNat) := rfl
  obtain ⟨⟨verdict, kill, now⟩, hWait⟩ := wait_ends (c := c) (s := s) hLimit
  cases verdict with
  | error e =>
    have hRun : run l program c s =
        some (.returned ⟨.error (.wait program e), kill.toList, now⟩) := by
      rw [run, hWait]
    refine ⟨.inr ⟨_, hRun⟩, iff_of_false ?_ ?_⟩
    · intro hOverflow
      cases hRun.symm.trans hOverflow
    · rintro ⟨verdict, kill', now', hWait', -⟩
      cases hWait.symm.trans hWait'
  | ok verdict =>
    have hRun := run_of_wait (c := c) program hWait
    have hOverflow : run l program c s = some .overflow ↔
        s.start.after? (now + s.deadline + killGrace) = none ∨
          (∃ status, verdict = .exited status) ∧
            greatestSecond < s.start.seconds + (s.start.nanos / 1000000000 : Nat) + n.toNat := by
      rw [hRun, drain_eq_overflow_iff, deadline_eq_none_iff, hLimit]
      simp only [Option.some.injEq, exists_eq_left', Instant.after?_ofSeconds_eq_none_iff]
    constructor
    · obtain ⟨outcome, hDrain⟩ := drain_ends (c := c) (s := s) hLimit program verdict kill now
      rw [hRun, hDrain]
      cases outcome with
      | overflow => exact .inl rfl
      | returned a => exact .inr ⟨a, rfl⟩
    · rw [hOverflow]
      constructor
      · exact fun h => ⟨verdict, kill, now, hWait, h⟩
      · rintro ⟨verdict', kill', now', hWait', h⟩
        cases hWait.symm.trans hWait'
        exact h

/-- A process that writes a text and ends after two milliseconds. -/
def prompt (text : String) : Course where
  exit := some (2000000, .exited 0)
  stdout := { writes := [⟨1000000, text, false⟩], closes := some 2000000 }
  stderr := { closes := some 2000000 }

/-- The greatest number of seconds is a limit that the process is far from reaching, and that stops
the run all the same. With half a minute the run returns. -/
theorem run_overflow_greatest :
    run ⟨some (.ofSeconds (18446744073709551615 : UInt64).toNat), false⟩ "castxml" (prompt "<r/>")
      { start := ⟨1000, 0⟩ } = some .overflow ∧
    run ⟨some (.ofSeconds (30 : UInt64).toNat), false⟩ "castxml" (prompt "<r/>")
      { start := ⟨1000, 0⟩ } = some (.returned ⟨.ok [60, 114, 47, 62], [], 10000000⟩) :=
  ⟨rfl, rfl⟩

end BindingCoverage.Extractor
