import BindingCoverage.Extractor.Runner
import BindingCoverage.Proofs.Extractor.Reader

/-!
# What a run tells of its process

`Account.Faithful` says how the result of a run is related to the process: a success and a failure
rest on a process that has ended, on pipes that have come to their ends, and on all that was written
to them; a run that was broken off carries a beginning of what was written.

* `held_of_signal`, `held_isPrefix`: what the reader of a pipe has, with and without its signal.
* `wait_sound`: what ends the wait for the process.
* `finishAll_eq_ok`: what the waits for the readers showed.
* `run_faithful`: every run that returns is faithful.
-/

namespace BindingCoverage.Extractor

/-! ## Pipes and their readers -/

/-- Nobody holds the pipe any more at time `t`, and everything has been written to it. -/
def Pipe.EndsBy (p : Pipe) (t : Nat) : Prop :=
  (∃ e ≤ t, p.closes = some e) ∧ ∀ o ∈ p.written none, o.time ≤ t

/-- When the reader of a pipe of a process that is left alone has signalled the end, it has the
whole stream from then on. -/
theorem held_of_signal {c : Course} {s : Schedule} {x : Host.Stream} {t t' : Nat}
    (hSignal : signalOf c s none x = some (t, .ok ())) (hTime : t ≤ t') :
    (c.pipe x).EndsBy t' ∧ (readerOf c s none x).held t' = (c.pipe x).stream none := by
  obtain ⟨hNone, hReady, e, he, hClosed⟩ := Reader.signal_eq_ok hSignal
  have hFollows := Reader.follows_run (s.paces x) ((c.pipe x).written none)
  refine ⟨⟨⟨e, Nat.le_trans he hTime, ?_⟩, ?_⟩, ?_⟩
  · exact hClosed
  · intro o ho
    exact Nat.le_trans (hFollows.written hNone o ho) (Nat.le_trans hReady hTime)
  · exact hFollows.held_of_ready_le hNone (Nat.le_trans hReady hTime)

/-- The reader of a pipe has a beginning of what is written to it, killed or not. -/
theorem held_isPrefix (c : Course) (s : Schedule) (kill : Option Nat) (x : Host.Stream) (t : Nat) :
    (readerOf c s kill x).held t <+: (c.pipe x).stream kill :=
  (Reader.follows_run (s.paces x) ((c.pipe x).written kill)).held_isPrefix t

/-! ## The wait for the process -/

/-- The wait for the process was over by an end that was seen, and then nothing was killed; or the
group was killed. -/
def Waited.Sound (c : Course) (w : Waited) : Prop :=
  match w.verdict with
  | .ok (.exited status) => w.kill = none ∧ ∃ e ≤ w.now, c.exit = some (e, status)
  | .ok _ => w.kill.isSome
  | .error _ => True

theorem endedBy_eq_some {c : Course} {t : Nat} {status : Host.ExitStatus}
    (h : c.endedBy t = some status) : ∃ e ≤ t, c.exit = some (e, status) := by
  unfold Course.endedBy at h
  split at h
  · next e status' hExit =>
    split at h
    · next he =>
      cases h
      exact ⟨e, he, hExit⟩
    · cases h
  · cases h

/-- The clock and the flag never say that the process has ended. -/
theorem expired_ne_exited {l : Limits} {s : Schedule} {times : PollTimes} {now now' : Nat}
    {verdict : Verdict} (h : expired l s times now = (now', some verdict)) :
    ∀ status, verdict ≠ .exited status := by
  intro status hEq
  subst hEq
  simp only [expired] at h
  split at h
  · cases h
  · split at h
    · cases h
    · cases h

/-- However often the runner has looked already. -/
theorem poll_sound {l : Limits} {c : Course} {s : Schedule} {w : Waited} (fuel : Nat) :
    ∀ index now, poll l c s fuel index now = some w → w.Sound c := by
  induction fuel with
  | zero =>
    intro index now h
    cases h
  | succ fuel ih =>
    intro index now h
    simp only [poll] at h
    split at h
    · -- asking for the end of the process fails
      cases h
      trivial
    · next status hEnded =>
      cases h
      exact ⟨rfl, endedBy_eq_some hEnded⟩
    · split at h
      · exact ih _ _ h
      · next now' verdict hExpired =>
        split at h
        · cases h
          trivial
        · cases h
          cases verdict with
          | exited status => exact absurd rfl (expired_ne_exited hExpired status)
          | timedOut limit => rfl
          | cancelled => rfl

theorem wait_sound {l : Limits} {c : Course} {s : Schedule} {fuel : Nat} {w : Waited}
    (h : wait l c s fuel = some w) : w.Sound c := by
  unfold wait at h
  split at h
  · split at h
    · cases h
      trivial
    · next hExit =>
      cases h
      exact ⟨rfl, _, Nat.le_refl _, hExit⟩
    · cases h
  · exact poll_sound fuel 0 0 h

/-! ## The waits for the readers -/

/-- A wait that is over with a signal came after the signal; one that is over without any had a
deadline. -/
theorem finish_eq_ok {times : FinishTimes} {deadline : Option Nat}
    {signal : Option (Nat × Except Host.SystemError Unit)} {now now' : Nat} {closed : Bool}
    (h : finish times deadline signal now = some (.ok closed, now')) :
    now ≤ now' ∧ (closed = true → ∃ t ≤ now', signal = some (t, .ok ())) ∧
      (closed = false → deadline ≠ none) := by
  have hGiven : ∀ (time now'' : Nat) (end? : Except Host.SystemError Unit),
      (end?.map fun () => true, max (now + times.ask) time + times.wake) =
        ((.ok closed, now'') : Except Host.SystemError Bool × Nat) →
      now ≤ now'' ∧ closed = true ∧ time ≤ now'' ∧ end? = .ok () := by
    intro time now'' end? hEq
    obtain ⟨hEnd, hNow⟩ := Prod.mk.inj hEq
    cases end? with
    | error e => cases hEnd
    | ok u =>
      cases hEnd
      exact ⟨by omega, rfl, by omega, rfl⟩
  simp only [finish] at h
  split at h
  · cases h
  · obtain ⟨hNow, rfl, hTime, rfl⟩ := hGiven _ _ _ (Option.some.inj h)
    exact ⟨hNow, fun _ => ⟨_, hTime, rfl⟩, nofun⟩
  · cases h
    exact ⟨by omega, nofun, nofun⟩
  · split at h
    · obtain ⟨hNow, rfl, hTime, rfl⟩ := hGiven _ _ _ (Option.some.inj h)
      exact ⟨hNow, fun _ => ⟨_, hTime, rfl⟩, nofun⟩
    · cases h
      exact ⟨by omega, nofun, nofun⟩

/-- When the waits for several readers are over, each of them has signalled its end before, or there
was a deadline. -/
theorem finishAll_eq_ok {s : Schedule} {deadline : Option Nat}
    {signal : Host.Stream → Option (Nat × Except Host.SystemError Unit)}
    {streams : List Host.Stream} :
    ∀ {now now' : Nat} {closed : Bool},
      finishAll s deadline signal streams now = some (.ok closed, now') →
      now ≤ now' ∧ (closed = true → ∀ x ∈ streams, ∃ t ≤ now', signal x = some (t, .ok ())) ∧
        (closed = false → deadline ≠ none) := by
  induction streams with
  | nil =>
    intro now now' closed h
    cases h
    exact ⟨Nat.le_refl _, by simp, nofun⟩
  | cons x rest ih =>
    intro now now' closed h
    simp only [finishAll] at h
    split at h
    · cases h
    · cases h
    · next first between hFirst =>
      split at h
      · cases h
      · next others now'' hOthers =>
        obtain ⟨hResult, rfl⟩ := Prod.mk.inj (Option.some.inj h)
        cases others with
        | error e => cases hResult
        | ok second =>
          cases hResult
          obtain ⟨hNow, hClosed, hDeadline⟩ := finish_eq_ok hFirst
          obtain ⟨hNow', hClosed', hDeadline'⟩ := ih hOthers
          refine ⟨Nat.le_trans hNow hNow', ?_, ?_⟩
          · intro hBoth y hy
            obtain ⟨hFirstClosed, hRestClosed⟩ := Bool.and_eq_true_iff.mp hBoth
            rcases List.mem_cons.mp hy with rfl | hy
            · obtain ⟨t, ht, hSignal⟩ := hClosed hFirstClosed
              exact ⟨t, Nat.le_trans ht hNow', hSignal⟩
            · exact hClosed' hRestClosed y hy
          · intro hOpen
            rcases Bool.and_eq_false_iff.mp hOpen with hOpen | hOpen
            · exact hDeadline hOpen
            · exact hDeadline' hOpen

/-- Only a limit sets a deadline for the pipes of a process that has ended. -/
theorem timeout_of_deadline {l : Limits} {s : Schedule} {status : Host.ExitStatus}
    {now : Nat} {d : Option Nat} (h : deadline l s (.exited status) now = some d) (hd : d ≠ none) :
    l.timeout ≠ none := by
  unfold deadline at h
  split at h
  · cases h
  · next hLimit =>
    rw [hLimit]
    nofun
  · cases h
    exact absurd rfl hd
  · next hUnlimited =>
    intro hTimeout
    exact hUnlimited status rfl hTimeout

/-! ## Runs -/

/-- How the result of a run is related to the process. -/
def Account.Faithful (c : Course) (a : Account) : Prop :=
  match a.result with
  | .ok octets =>
    (∃ e ≤ a.ended, ∃ status, c.exit = some (e, status) ∧ status.isSuccess = true) ∧
      (∀ x, (c.pipe x).EndsBy a.ended) ∧ a.kills = [] ∧ octets = c.stdout.stream none
  | .error (.failed _ status stderr) =>
    (∃ e ≤ a.ended, c.exit = some (e, status)) ∧ status.isSuccess = false ∧
      (∀ x, (c.pipe x).EndsBy a.ended) ∧ a.kills = [] ∧ stderr = Utf8.lossy (c.stderr.stream none)
  | .error (.timedOut _ _ stderr) | .error (.cancelled _ stderr) =>
    ∃ octets, octets <+: c.stderr.stream a.kills.head? ∧ stderr = Utf8.lossy octets
  | .error _ => True

/-- The account of a process that was seen to end, and of whose pipes everything was read. -/
theorem faithful_of_exited (program : String) (read : Host.Stream → List UInt8) {c : Course}
    {a : Account} {e : Nat} {status : Host.ExitStatus}
    (hResult : a.result = conclude program (.exited status) read) (hKills : a.kills = [])
    (hEnd : e ≤ a.ended) (hExit : c.exit = some (e, status))
    (hRead : ∀ x, (c.pipe x).EndsBy a.ended ∧ read x = (c.pipe x).stream none) : a.Faithful c := by
  unfold Account.Faithful
  simp only [conclude] at hResult
  cases hStatus : status.isSuccess with
  | true =>
    rw [hStatus, if_pos rfl, (hRead .stdout).2] at hResult
    rw [hResult]
    exact ⟨⟨e, hEnd, status, hExit, hStatus⟩, fun x => (hRead x).1, hKills, rfl⟩
  | false =>
    rw [hStatus, if_neg Bool.false_ne_true, (hRead .stderr).2] at hResult
    rw [hResult]
    exact ⟨⟨e, hEnd, hExit⟩, hStatus, fun x => (hRead x).1, hKills, rfl⟩

/-- After a sound wait for the process, what the runner makes of the pipes is faithful. -/
theorem drain_faithful {l : Limits} {program : String} {c : Course} {s : Schedule}
    {verdict : Verdict} {kill : Option Nat} {now : Nat} {a : Account}
    (hSound : Waited.Sound c ⟨.ok verdict, kill, now⟩)
    (h : drain l program c s verdict kill now = some (.returned a)) : a.Faithful c := by
  simp only [drain] at h
  split at h
  · cases h
  next d hDeadline =>
  split at h
  · cases h
  · cases h
    trivial
  next closed now' hFinished =>
  obtain ⟨hNow, hClosed, hOpen⟩ := finishAll_eq_ok hFinished
  cases h
  cases verdict with
  | timedOut limit => exact ⟨_, held_isPrefix c s _ .stderr _, rfl⟩
  | cancelled => exact ⟨_, held_isPrefix c s _ .stderr _, rfl⟩
  | exited status =>
    obtain ⟨rfl, e, he, hExit⟩ := hSound
    dsimp only at he
    cases closed with
    | false =>
      -- without a limit there was no deadline, and the waits would have lasted until both ends
      cases hTimeout : l.timeout with
      | none => exact absurd hTimeout (timeout_of_deadline hDeadline (hOpen rfl))
      | some limit =>
        have hAmended : amend l (.exited status) false = .timedOut limit := by
          unfold amend
          rw [hTimeout]
        rw [hAmended]
        exact ⟨_, held_isPrefix c s _ .stderr _, rfl⟩
    | true =>
      have hAmended : amend l (.exited status) true = .exited status := rfl
      rw [hAmended, if_pos rfl]
      refine faithful_of_exited program (fun x => (readerOf c s none x).held (now' + s.take))
        rfl rfl ?_ hExit ?_
      · dsimp only
        omega
      · intro x
        obtain ⟨t, ht, hSignal⟩ := hClosed rfl x (by cases x <;> decide)
        exact held_of_signal hSignal (Nat.le_trans ht (Nat.le_add_right _ _))

/-- Whatever the limits are, and in whatever order process, descendants, readers, flag and runner
act: what a run that returns tells of its process is true. -/
theorem run_faithful (l : Limits) (program : String) (c : Course) (s : Schedule) (a : Account)
    (h : run l program c s = some (.returned a)) : a.Faithful c := by
  unfold run at h
  split at h
  · cases h
  · cases h
    trivial
  · next hWaited => exact drain_faithful (wait_sound hWaited) h

/-! ## A process that leaves another one behind -/

/-- A process ends after five milliseconds, and a descendant outside its group goes on writing. -/
def outlived (status : Host.ExitStatus) : Course where
  exit := some (5000000, status)
  stdout := {
    writes := [⟨1000000, "<a", false⟩, ⟨40000000, "/>", true⟩]
    closes := some 50000000
    withdrawal := some 50000000 }
  stderr := {
    writes := [⟨2000000, "w\xff", false⟩, ⟨150000000, "!", true⟩]
    closes := some 200000000
    withdrawal := some 200000000 }

/-- The readers bring single octets, and the flag is raised when the process has ended. -/
def leisurely : Schedule where
  start := ⟨1000, 0⟩
  cancel := some 20000000
  paces _ _ := { ask := 1000, keep := 2000, most := 1 }

/-- With enough time the runner has all of it, as a success or a failure; with too little time it
has a beginning, and says that the time is up. -/
theorem run_faithful_outlived :
    (run ⟨some (.ofMillis 300), true⟩ "castxml" (outlived (.exited 0)) leisurely =
        some (.returned ⟨.ok [60, 97, 47, 62], [], 200002000⟩) ∧
      Account.Faithful (outlived (.exited 0)) ⟨.ok [60, 97, 47, 62], [], 200002000⟩) ∧
    (run ⟨none, true⟩ "castxml" (outlived (.exited 3)) leisurely =
        some (.returned ⟨.error (.failed "castxml" (.exited 3) "w\uFFFD!"), [], 200002000⟩) ∧
      Account.Faithful (outlived (.exited 3))
        ⟨.error (.failed "castxml" (.exited 3) "w\uFFFD!"), [], 200002000⟩) ∧
    run ⟨some (.ofMillis 60), false⟩ "castxml" (outlived (.exited 0)) leisurely =
        some (.returned ⟨.error (.timedOut "castxml" (.ofMillis 60) "w\uFFFD"), [110000000],
          110000000⟩) ∧
      Account.Faithful (outlived (.exited 0))
        ⟨.error (.timedOut "castxml" (.ofMillis 60) "w\uFFFD"), [110000000], 110000000⟩ :=
  ⟨⟨rfl, run_faithful ⟨some (.ofMillis 300), true⟩ "castxml" _ leisurely _ rfl⟩,
    ⟨rfl, run_faithful ⟨none, true⟩ "castxml" _ leisurely _ rfl⟩,
    ⟨rfl, run_faithful ⟨some (.ofMillis 60), false⟩ "castxml" _ leisurely _ rfl⟩⟩

end BindingCoverage.Extractor
