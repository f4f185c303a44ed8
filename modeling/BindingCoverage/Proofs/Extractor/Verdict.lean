import BindingCoverage.Proofs.Extractor.Cancellation
import BindingCoverage.Proofs.Extractor.Faithfulness

/-!
# What a verdict rests on

`Reaps` lists the ways in which the wait for a process ends when no call fails. Each of them is a
call that waits for the process and returns, so that the process has been reaped.

* `reaps_of_wait`, `wait_of_reaps`: the wait ends in these ways and in no other.
* `finishAll_in_time`, `finishAll_open`: what the signals of the readers make of their waits.
* `drain_returned`: all that a run does after the wait for the process.
* `Account.Sound`: what each result of a run tells of the looks and signals before it.
* `run_verdict`: every run that returns is sound and has reaped its process, and a process that is
  seen to end in time, with its pipes, gets its own result.
-/

namespace BindingCoverage.Extractor

variable {l : Limits} {c : Course} {s : Schedule} {n : Nat}

/-! ## How the wait for the process ends -/

/-- How the wait for a process ends if no call fails: the verdict, when the group was killed, and
when the call returned that reaped the process. -/
inductive Reaps (l : Limits) (c : Course) (s : Schedule) : Verdict → Option Nat → Nat → Prop where
  /-- Without limits the runner sleeps until the process has ended. -/
  | slept {e : Nat} {status : Host.ExitStatus} (hUnlimited : ¬ l.Polled)
      (hExit : c.exit = some (e, status)) : Reaps l c s (.exited status) none e
  | seen {n : Nat} {status : Host.ExitStatus} (hPolled : l.Polled)
      (hBefore : ∀ i < n, Passes l c s i) (hEnded : c.endedBy (s.lookAt n) = some status) :
      Reaps l c s (.exited status) none (s.lookAt n)
  | late {n : Nat} {limit : Duration} (hBefore : ∀ i < n, Passes l c s i)
      (hRunning : c.endedBy (s.lookAt n) = none) (hLimit : l.timeout = some limit)
      (hTime : limit.nanos ≤ s.clockAt n) :
      Reaps l c s (.timedOut limit) (some (s.clockAt n)) (s.clockAt n + s.reap)
  | called {n raised : Nat} (hBefore : ∀ i < n, Passes l c s i)
      (hRunning : c.endedBy (s.lookAt n) = none)
      (hEarly : ∀ limit, l.timeout = some limit → s.clockAt n < limit.nanos)
      (hRaise : s.raise l = some raised) (hRead : raised ≤ s.flagAt n) :
      Reaps l c s .cancelled (some (s.flagAt n)) (s.flagAt n + s.reap)

theorem polled_of_raise {raised : Nat} (hRaise : s.raise l = some raised) : l.Polled :=
  .inr (cancellable_of_raise hRaise)

theorem polled_of_limit {limit : Duration} (hLimit : l.timeout = some limit) : l.Polled :=
  .inl (hLimit ▸ nofun)

/-- The case split is on what the look finds, in the order in which it asks. -/
theorem reaps_of_first {w : Waited} (hCalls : s.fault = none) (hPolled : l.Polled)
    (hEnd : endAt l c s n = some w) (hBefore : ∀ i < n, Passes l c s i) :
    ∃ verdict, w.verdict = .ok verdict ∧ Reaps l c s verdict w.kill w.now := by
  cases hEnded : c.endedBy (s.lookAt n) with
  | some status =>
    cases (endAt_of_ended hCalls hEnded).symm.trans hEnd
    exact ⟨_, rfl, .seen hPolled hBefore hEnded⟩
  | none =>
    rcases late_or_called hEnded (not_passes_of_endAt hCalls hEnd) with
      ⟨limit, hLimit, hTime⟩ | ⟨hEarly, raised, hRaise, hRead⟩
    · cases (endAt_of_late hCalls hEnded hLimit hTime).symm.trans hEnd
      exact ⟨_, rfl, .late hBefore hEnded hLimit hTime⟩
    · cases (endAt_of_called hCalls hEnded hEarly hRaise hRead).symm.trans hEnd
      exact ⟨_, rfl, .called hBefore hEnded hEarly hRaise hRead⟩

theorem wait_of_not_polled (hCalls : s.fault = none) (hUnlimited : ¬ l.Polled) (fuel : Nat) :
    wait l c s fuel = c.exit.map fun exit => ⟨.ok (.exited exit.2), none, exit.1⟩ := by
  obtain ⟨hTimeout, hFlag⟩ := not_or.mp hUnlimited
  have hAlone : (l.timeout.isNone && !l.cancellable) = true := by
    rw [not_not.mp hTimeout, Bool.eq_false_iff.mpr hFlag]
    rfl
  rw [wait, if_pos hAlone, failure_faultless hCalls]
  cases c.exit with
  | none => rfl
  | some exit => rfl

theorem reaps_of_wait (hCalls : s.fault = none) {w : Waited}
    (h : wait l c s (looks l c s) = some w) :
    ∃ verdict, w.verdict = .ok verdict ∧ Reaps l c s verdict w.kill w.now := by
  by_cases hPolled : l.Polled
  · obtain ⟨n, hEnd, hBefore⟩ := (wait_eq_some_iff_first hPolled).mp h
    exact reaps_of_first hCalls hPolled hEnd fun i hi =>
      (endAt_eq_none_iff_passes hCalls).mp (hBefore i hi)
  · rw [wait_of_not_polled hCalls hPolled] at h
    obtain ⟨⟨e, status⟩, hExit, rfl⟩ := Option.map_eq_some_iff.mp h
    exact ⟨_, rfl, .slept hPolled hExit⟩

theorem wait_of_reaps (hCalls : s.fault = none) {verdict : Verdict} {kill : Option Nat} {now : Nat}
    (h : Reaps l c s verdict kill now) :
    wait l c s (looks l c s) = some ⟨.ok verdict, kill, now⟩ := by
  have hPass : ∀ {n}, (∀ i < n, Passes l c s i) → ∀ i < n, endAt l c s i = none :=
    fun hBefore i hi => (endAt_eq_none_iff_passes hCalls).mpr (hBefore i hi)
  cases h with
  | slept hUnlimited hExit =>
    rw [wait_of_not_polled hCalls hUnlimited, hExit]
    rfl
  | seen hPolled hBefore hEnded =>
    exact (wait_eq_some_iff_first hPolled).mpr ⟨_, endAt_of_ended hCalls hEnded, hPass hBefore⟩
  | late hBefore hRunning hLimit hTime =>
    exact (wait_eq_some_iff_first (polled_of_limit hLimit)).mpr
      ⟨_, endAt_of_late hCalls hRunning hLimit hTime, hPass hBefore⟩
  | called hBefore hRunning hEarly hRaise hRead =>
    exact (wait_eq_some_iff_first (polled_of_raise hRaise)).mpr
      ⟨_, endAt_of_called hCalls hRunning hEarly hRaise hRead, hPass hBefore⟩

/-- The process that a wait has seen to end has ended by then. -/
theorem Reaps.exit {status : Host.ExitStatus} {kill : Option Nat} {now : Nat}
    (h : Reaps l c s (.exited status) kill now) : ∃ e ≤ now, c.exit = some (e, status) := by
  cases h with
  | slept _ hExit => exact ⟨_, Nat.le_refl _, hExit⟩
  | seen _ _ hEnded => exact endedBy_eq_some hEnded

/-! ## The waits for the readers -/

/-- A reader gives the signal of an end, no later than a deadline. -/
def InTime (deadline : Option Nat) (signal : Option (Nat × Except Host.SystemError Unit)) : Prop :=
  ∃ t, signal = some (t, .ok ()) ∧ ∀ d, deadline = some d → t ≤ d

/-- A reader has given no signal at time `t`. -/
def Silent (signal : Option (Nat × Except Host.SystemError Unit)) (t : Nat) : Prop :=
  ∀ given end?, signal = some (given, end?) → t < given

section

variable {deadline : Option Nat} {signal : Option (Nat × Except Host.SystemError Unit)}
  {now now' : Nat}

theorem finish_in_time (times : FinishTimes) (h : InTime deadline signal) (now : Nat) :
    ∃ now', finish times deadline signal now = some (.ok true, now') := by
  obtain ⟨t, rfl, hTime⟩ := h
  cases deadline with
  | none => exact ⟨_, rfl⟩
  | some d =>
    have hDue := hTime d rfl
    have hGiven : t ≤ max (now + times.ask) d + times.late := by omega
    simp only [finish, if_pos hGiven]
    exact ⟨_, rfl⟩

/-- A wait that ends without a signal was one until a deadline, and there was no signal by then. -/
theorem finish_open {times : FinishTimes}
    (h : finish times deadline signal now = some (.ok false, now')) :
    ∃ d, deadline = some d ∧ d ≤ now' ∧ Silent signal now' := by
  have hGiven (closing : Except Host.SystemError Unit) :
      closing.map (fun _ => true) ≠ .ok false := by
    intro hOpen
    cases closing with
    | error e => cases hOpen
    | ok u => cases hOpen
  simp only [finish] at h
  split at h
  · cases h
  · exact absurd (Prod.mk.inj (Option.some.inj h)).1 (hGiven _)
  · cases h
    refine ⟨_, rfl, by omega, ?_⟩
    intro given end? hSignal
    cases hSignal
  · split at h
    · exact absurd (Prod.mk.inj (Option.some.inj h)).1 (hGiven _)
    · next hLate =>
      cases h
      refine ⟨_, rfl, by omega, ?_⟩
      intro given end? hSignal
      cases hSignal
      exact Nat.lt_of_not_le hLate

theorem finish_faultless {times : FinishTimes} {result : Except Host.SystemError Bool}
    (hSignal : ∀ t end?, signal = some (t, end?) → end? = .ok ())
    (h : finish times deadline signal now = some (result, now')) :
    ∃ closed, result = .ok closed := by
  simp only [finish] at h
  split at h
  · cases h
  · obtain rfl := hSignal _ _ rfl
    cases h
    exact ⟨true, rfl⟩
  · cases h
    exact ⟨false, rfl⟩
  · obtain rfl := hSignal _ _ rfl
    split at h
    · cases h
      exact ⟨true, rfl⟩
    · cases h
      exact ⟨false, rfl⟩

end

section

variable {deadline : Option Nat} {streams : List Host.Stream} {now now' : Nat}
  {signal : Host.Stream → Option (Nat × Except Host.SystemError Unit)}

theorem finishAll_in_time (s : Schedule) (streams : List Host.Stream)
    (h : ∀ x ∈ streams, InTime deadline (signal x)) (now : Nat) :
    ∃ now', finishAll s deadline signal streams now = some (.ok true, now') := by
  induction streams generalizing now with
  | nil => exact ⟨now, rfl⟩
  | cons x rest ih =>
    obtain ⟨hFirst, hRest⟩ := List.forall_mem_cons.mp h
    obtain ⟨now', hNow⟩ := finish_in_time (s.finishes x) hFirst now
    obtain ⟨now'', hOthers⟩ := ih hRest now'
    refine ⟨now'', ?_⟩
    simp only [finishAll, hNow, hOthers]
    rfl

/-- When not all pipes were closed in time, one of their readers was silent at the deadline. -/
theorem finishAll_open (h : finishAll s deadline signal streams now = some (.ok false, now')) :
    ∃ d, deadline = some d ∧ ∃ x t, d ≤ t ∧ t ≤ now' ∧ Silent (signal x) t := by
  induction streams generalizing now now' with
  | nil => cases h
  | cons x rest ih =>
    simp only [finishAll] at h
    split at h
    · cases h
    · cases h
    · next closed between hFirst =>
      split at h
      · cases h
      · next others now'' hOthers =>
        obtain ⟨hResult, rfl⟩ := Prod.mk.inj (Option.some.inj h)
        cases others with
        | error e => cases hResult
        | ok second =>
          rcases Bool.and_eq_false_iff.mp (Except.ok.inj hResult) with rfl | rfl
          · obtain ⟨d, hDeadline, hTime, hSilent⟩ := finish_open hFirst
            exact ⟨d, hDeadline, x, between, hTime, (finishAll_eq_ok hOthers).1, hSilent⟩
          · exact ih hOthers

theorem finishAll_faultless {result : Except (Host.Stream × Host.SystemError) Bool}
    (hSignal : ∀ x t end?, signal x = some (t, end?) → end? = .ok ())
    (h : finishAll s deadline signal streams now = some (result, now')) :
    ∃ closed, result = .ok closed := by
  induction streams generalizing now now' result with
  | nil =>
    cases h
    exact ⟨true, rfl⟩
  | cons x rest ih =>
    simp only [finishAll] at h
    split at h
    · cases h
    · next hFirst => exact absurd (finish_faultless (hSignal x) hFirst) (by simp)
    · next closed between hFirst =>
      split at h
      · cases h
      · next others now'' hOthers =>
        obtain ⟨second, rfl⟩ := ih hOthers
        cases h
        exact ⟨closed && second, rfl⟩

end

/-! ## After the wait for the process -/

theorem run_of_wait (program : String) {verdict : Verdict} {kill : Option Nat} {now : Nat}
    (h : wait l c s (looks l c s) = some ⟨.ok verdict, kill, now⟩) :
    run l program c s = drain l program c s verdict kill now := by
  rw [run, h]

theorem signalOf_faultless (hReads : ∀ x i, (s.paces x i).fault = none) (kill : Option Nat)
    (x : Host.Stream) (t : Nat) (end? : Except Host.SystemError Unit)
    (h : signalOf c s kill x = some (t, end?)) : end? = .ok () :=
  Reader.signal_faultless (hReads x) h

/-- A run that returns, with no read failed, has waited for the pipes, and maybe found that the time
is up; it then kills the group and concludes from what was read. -/
theorem drain_returned {program : String} {verdict : Verdict} {kill : Option Nat} {now : Nat}
    {a : Account} (hReads : ∀ x i, (s.paces x i).fault = none)
    (h : drain l program c s verdict kill now = some (.returned a)) :
    ∃ d closed now', deadline l s verdict (now + s.deadline) = some d ∧
      finishAll s d (signalOf c s kill) Host.Stream.all (now + s.deadline) =
        some (.ok closed, now') ∧
      a.kills = kill.toList ++ (if amend l verdict closed = verdict then [] else [now']) ∧
      a.ended = now' + s.take ∧
      a.result = conclude program (amend l verdict closed)
        fun x => (readerOf c s a.kills.head? x).held a.ended := by
  simp only [drain] at h
  split at h
  · cases h
  next d hDeadline =>
  split at h
  · cases h
  · next hFailed =>
    exact absurd (finishAll_faultless (signalOf_faultless hReads kill) hFailed) (by simp)
  next closed now' hFinished =>
  cases h
  exact ⟨d, closed, now', hDeadline, hFinished, rfl, rfl, rfl⟩

/-- A process that has ended has until the limit for its pipes, or for the grace if that is
later. -/
theorem deadline_exited {status : Host.ExitStatus} {limit : Duration} {now : Nat} {d : Option Nat}
    (hLimit : l.timeout = some limit) (h : deadline l s (.exited status) now = some d) :
    d = some (max limit.nanos (now + killGrace)) := by
  unfold deadline at h
  rw [hLimit] at h
  split at h
  · cases h
  · next hSame =>
    cases hSame
    split at h
    · cases h
    · exact (Option.some.inj h).symm
  · next hNone => cases hNone
  · next hOther _ => exact absurd rfl (hOther status limit rfl)

/-- A process that has ended gets its own result when its pipes end in time. -/
theorem drain_in_time (program : String) {status : Host.ExitStatus} {seen : Nat} {d : Option Nat}
    (hDeadline : deadline l s (.exited status) (seen + s.deadline) = some d)
    (hPipes : ∀ x, InTime d (signalOf c s none x)) :
    ∃ ended, drain l program c s (.exited status) none seen = some (.returned
      ⟨conclude program (.exited status) fun x => (c.pipe x).stream none, [], ended⟩) := by
  obtain ⟨now', hFinished⟩ := finishAll_in_time s Host.Stream.all
    (fun x _ => hPipes x) (seen + s.deadline)
  obtain ⟨-, hClosed, -⟩ := finishAll_eq_ok hFinished
  have hHeld : (fun x => (readerOf c s none x).held (now' + s.take)) =
      fun x => (c.pipe x).stream none := by
    funext x
    obtain ⟨t, ht, hSignal⟩ := hClosed rfl x (by cases x <;> decide)
    exact (held_of_signal hSignal (Nat.le_trans ht (Nat.le_add_right _ _))).2
  have hAmended : amend l (.exited status) true = .exited status := rfl
  refine ⟨now' + s.take, ?_⟩
  simp only [drain, hDeadline, hFinished, hAmended, if_true]
  rw [← hHeld]
  rfl

/-! ## Runs -/

/-- After a look that saw the process end, a reader was silent at the deadline for its pipe, and the
group was killed. -/
def HeldOpen (l : Limits) (c : Course) (s : Schedule) (limit : Duration) (kill : Nat) : Prop :=
  ∃ status seen x t, Reaps l c s (.exited status) none seen ∧
    max limit.nanos (seen + s.deadline + killGrace) ≤ t ∧ t ≤ kill ∧ Silent (signalOf c s none x) t

/-- Look `n` finds the process running, the limit not reached, and the flag raised. -/
structure Heeds (l : Limits) (c : Course) (s : Schedule) (n : Nat) : Prop where
  running : c.endedBy (s.lookAt n) = none
  early : ∀ limit, l.timeout = some limit → s.clockAt n < limit.nanos
  raised : ∃ raised, s.raise l = some raised ∧ raised ≤ s.flagAt n

/-- What the result of a run tells of its process and of the looks at it. -/
def Account.Sound (l : Limits) (program : String) (c : Course) (s : Schedule) (a : Account) :
    Prop :=
  match a.result with
  | .ok _ => a.kills = [] ∧
    ∃ e ≤ a.ended, ∃ status, c.exit = some (e, status) ∧ status.isSuccess = true
  | .error (.failed name status _) => name = program ∧ a.kills = [] ∧
    (∃ e ≤ a.ended, c.exit = some (e, status)) ∧ status.isSuccess = false
  | .error (.timedOut name limit _) => name = program ∧ l.timeout = some limit ∧
    ∃ kill, a.kills = [kill] ∧ limit.nanos ≤ kill ∧ kill ≤ a.ended ∧
      ((∃ n, kill = s.clockAt n ∧ c.endedBy (s.lookAt n) = none) ∨ HeldOpen l c s limit kill)
  | .error (.cancelled name _) => name = program ∧
    ∃ n, Heeds l c s n ∧ a.kills = [s.flagAt n] ∧ s.flagAt n ≤ a.ended
  | .error _ => False

/-- The account of a process that has ended with nothing killed. -/
theorem sound_of_exited {program : String} {read : Host.Stream → List UInt8} {a : Account} {e : Nat}
    {status : Host.ExitStatus} (hResult : a.result = conclude program (.exited status) read)
    (hKills : a.kills = []) (hEnd : e ≤ a.ended) (hExit : c.exit = some (e, status)) :
    a.Sound l program c s := by
  unfold Account.Sound
  simp only [conclude] at hResult
  cases hStatus : status.isSuccess with
  | true =>
    rw [hStatus, if_pos rfl] at hResult
    rw [hResult]
    exact ⟨hKills, e, hEnd, status, hExit, hStatus⟩
  | false =>
    rw [hStatus, if_neg Bool.false_ne_true] at hResult
    rw [hResult]
    exact ⟨rfl, hKills, ⟨e, hEnd, hExit⟩, hStatus⟩

/-- One case for each way in which the wait for the process has ended. -/
theorem drain_sound {program : String} {verdict : Verdict} {kill : Option Nat} {now : Nat}
    {a : Account} (hReads : ∀ x i, (s.paces x i).fault = none)
    (hReaps : Reaps l c s verdict kill now)
    (h : drain l program c s verdict kill now = some (.returned a)) :
    a.Sound l program c s ∧ now ≤ a.ended := by
  obtain ⟨d, closed, now', hDeadline, hFinished, hKills, hEnded, hResult⟩ := drain_returned hReads h
  obtain ⟨hNow, -, hOpen⟩ := finishAll_eq_ok hFinished
  refine ⟨?_, by omega⟩
  cases verdict with
  | timedOut limit =>
    cases hReaps with
    | late _ hRunning hLimit hTime =>
      have hAmended : amend l (.timedOut limit) closed = .timedOut limit := rfl
      rw [hAmended, if_pos rfl] at hKills
      unfold Account.Sound
      rw [hResult, hAmended]
      exact ⟨rfl, hLimit, _, hKills, hTime, by omega, .inl ⟨_, rfl, hRunning⟩⟩
  | cancelled =>
    cases hReaps with
    | called _ hRunning hEarly hRaise hRead =>
      have hAmended : amend l .cancelled closed = .cancelled := rfl
      rw [hAmended, if_pos rfl] at hKills
      unfold Account.Sound
      rw [hResult, hAmended]
      exact ⟨rfl, _, ⟨hRunning, hEarly, _, hRaise, hRead⟩, hKills, by omega⟩
  | exited status =>
    obtain ⟨e, he, hExit⟩ := hReaps.exit
    have hKill : kill = none := by cases hReaps <;> rfl
    subst hKill
    cases closed with
    | true =>
      have hAmended : amend l (.exited status) true = .exited status := rfl
      rw [hAmended] at hResult hKills
      exact sound_of_exited hResult (hKills.trans (by simp)) (by omega) hExit
    | false =>
      -- a wait without a signal was one until the deadline that the limit sets
      obtain ⟨limit, hLimit⟩ := Option.ne_none_iff_exists'.mp
        (timeout_of_deadline hDeadline (hOpen rfl))
      have hAmended : amend l (.exited status) false = .timedOut limit := by
        unfold amend
        rw [hLimit]
      obtain ⟨d', hd', x, t, hDue, hTime, hSilent⟩ := finishAll_open hFinished
      obtain rfl := Option.some.inj (hd'.symm.trans (deadline_exited hLimit hDeadline))
      rw [hAmended, if_neg (by nofun)] at hKills
      unfold Account.Sound
      rw [hResult, hAmended]
      exact ⟨rfl, hLimit, now', hKills, by omega, by omega,
        .inr ⟨status, now, x, t, hReaps, hDue, hTime, hSilent⟩⟩

/-- Whatever the limits are, and in whatever order process, descendants, readers, flag and runner
act: a run that returns tells the truth about what it saw and whom it killed, and has reaped the
process. A process that is seen to end before the limit or the flag is, and whose pipes end by the
deadline, gets its own result. -/
theorem run_verdict (l : Limits) (program : String) (c : Course) (s : Schedule)
    (hCalls : s.fault = none) (hReads : ∀ x i, (s.paces x i).fault = none) :
    (∀ a, run l program c s = some (.returned a) → a.Sound l program c s ∧
      ∃ verdict kill reaped, Reaps l c s verdict kill reaped ∧ reaped ≤ a.ended) ∧
    ∀ status seen d, Reaps l c s (.exited status) none seen →
      deadline l s (.exited status) (seen + s.deadline) = some d →
      (∀ x, InTime d (signalOf c s none x)) →
      ∃ ended, run l program c s = some (.returned
        ⟨conclude program (.exited status) fun x => (c.pipe x).stream none, [], ended⟩) := by
  constructor
  · intro a h
    cases hWait : wait l c s (looks l c s) with
    | none =>
      rw [run, hWait] at h
      cases h
    | some w =>
      obtain ⟨verdict, hVerdict, hReaps⟩ := reaps_of_wait hCalls hWait
      obtain ⟨_, kill, now⟩ := w
      cases hVerdict
      rw [run_of_wait program hWait] at h
      obtain ⟨hSound, hNow⟩ := drain_sound hReads hReaps h
      exact ⟨hSound, verdict, kill, now, hReaps, hNow⟩
  · intro status seen d hReaps hDeadline hPipes
    rw [run_of_wait program (wait_of_reaps hCalls hReaps)]
    exact drain_in_time program hDeadline hPipes

/-- A process that is seen to end and whose pipes end later, in time and too late for the limit, and
one that does not end, for which first the time is up and then the flag is raised. -/
theorem run_verdict_outlived :
    (∃ ended, run ⟨some (.ofMillis 300), true⟩ "castxml" (outlived (.exited 3)) leisurely =
      some (.returned ⟨.error (.failed "castxml" (.exited 3) "w\uFFFD!"), [], ended⟩)) ∧
    (run ⟨some (.ofMillis 60), false⟩ "castxml" (outlived (.exited 0)) leisurely =
        some (.returned ⟨.error (.timedOut "castxml" (.ofMillis 60) "w\uFFFD"), [110000000],
          110000000⟩) ∧
      Account.Sound ⟨some (.ofMillis 60), false⟩ "castxml" (outlived (.exited 0)) leisurely
        ⟨.error (.timedOut "castxml" (.ofMillis 60) "w\uFFFD"), [110000000], 110000000⟩) ∧
    (run ⟨some (.ofMillis 20), true⟩ "sh" waiting (cancelledAt 25000000) =
        some (.returned ⟨.error (.timedOut "sh" (.ofMillis 20) ""), [20000000], 20000000⟩) ∧
      Account.Sound ⟨some (.ofMillis 20), true⟩ "sh" waiting (cancelledAt 25000000)
        ⟨.error (.timedOut "sh" (.ofMillis 20) ""), [20000000], 20000000⟩) ∧
    run ⟨some (.ofMillis 300), true⟩ "sh" waiting (cancelledAt 25000000) =
        some (.returned ⟨.error (.cancelled "sh" ""), [30000000], 30000000⟩) ∧
      Account.Sound ⟨some (.ofMillis 300), true⟩ "sh" waiting (cancelledAt 25000000)
        ⟨.error (.cancelled "sh" ""), [30000000], 30000000⟩ := by
  refine ⟨?_, ⟨rfl, ?_⟩, ⟨rfl, ?_⟩, rfl, ?_⟩
  · refine (run_verdict ⟨some (.ofMillis 300), true⟩ "castxml" (outlived (.exited 3)) leisurely rfl
      fun _ _ => rfl).2 (.exited 3) 10000000 (some 300000000) ?_ rfl ?_
    · refine .seen (.inr rfl) ?_ (n := 1) (by decide)
      intro i hi
      obtain rfl := Nat.lt_one_iff.mp hi
      exact ⟨rfl, by decide, by decide⟩
    · intro x
      cases x with
      | stdout => exact ⟨_, rfl, by decide⟩
      | stderr => exact ⟨_, rfl, by decide⟩
  · exact ((run_verdict ⟨some (.ofMillis 60), false⟩ "castxml" _ leisurely rfl
      fun _ _ => rfl).1 _ rfl).1
  · exact ((run_verdict ⟨some (.ofMillis 20), true⟩ "sh" waiting (cancelledAt 25000000) rfl
      fun _ _ => rfl).1 _ rfl).1
  · exact ((run_verdict ⟨some (.ofMillis 300), true⟩ "sh" waiting (cancelledAt 25000000) rfl
      fun _ _ => rfl).1 _ rfl).1

end BindingCoverage.Extractor
