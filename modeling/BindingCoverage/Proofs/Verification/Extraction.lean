import BindingCoverage.Proofs.Extractor.Clock
import BindingCoverage.Proofs.Host.Files
import BindingCoverage.Proofs.Scratch
import BindingCoverage.Proofs.Verification.Findings
import BindingCoverage.Verification.Host

/-!
# A search for declarations on a host

A `Session` is all that a search meets outside: where the stub is stored, how the extractor goes on
as a process, and which files it leaves.

* `remove_of_create`: a stub is stored in a new file.
* `Session.search`: what is found in a session, and what is left of it.
* `exists_session_onHost`: a search on a host is a session, once its program can be started.
-/

namespace BindingCoverage.Verification

/-! ## Sessions -/

/-- The reply that a run of the extractor comes to. -/
def replyOf : Option Extractor.Outcome → Reply
  | some (.returned a) =>
    match a.result with
    | .ok octets => .given octets
    | .error e => .failed e
  | _ => .brokenOff

/-- What a search for the declarations of a library meets, with scratch files where the settings ask
for them: the file with the stub, and the process that the extractor is. -/
structure Session (extract : Extractor.Invocation → Activity Host.Files Reply)
    (settings : Settings) (l : Library) (files : Host.Files) where
  file : Scratch.File
  /-- The files when the stub is stored. -/
  stored : Host.Files
  course : Extractor.Course
  schedule : Extractor.Schedule
  /-- The files when the extractor has run. -/
  left : Host.Files
  stores : ((storageOf settings).create l).run files = (.ok file, stored)
  runs : (extract (.extract settings file.text)).run stored =
    (replyOf (Extractor.run (limitsOf settings) settings.extractor course schedule), left)

/-- What is created is new, and when it is removed all is as before. -/
theorem remove_of_create {settings : Settings} {l : Library} {file : Scratch.File}
    {files stored : Host.Files}
    (h : ((storageOf settings).create l).run files = (.ok file, stored)) :
    stored.remove file.path = files := by
  unfold Scratch.Storage.create at h
  rw [Activity.run_bind] at h
  simp only [Activity.run_atomic, storageOf, Part.lift, Part.whole, Scratch.make] at h
  cases hVacancy : Scratch.vacancyFrom files (settings.scratchDir.getD Scratch.systemDirectory) l
      Scratch.attempts 0 with
  | error e =>
    rw [hVacancy] at h
    cases h
  | ok made =>
    simp only [hVacancy, Activity.run_bind, Activity.run_atomic, Scratch.fill] at h
    obtain ⟨hFile, rfl⟩ := Prod.mk.inj h
    obtain rfl := Except.ok.inj hFile
    obtain ⟨hFree, -⟩ := Host.Files.of_vacancy
      (Scratch.vacancyFrom_eq_ok Scratch.attempts 0 hVacancy) (.file [] false)
    rw [Host.Files.remove_put_self, Host.Files.remove_put_self,
      Host.Files.remove_of_get?_eq_none hFree]

namespace Session

variable {extract : Extractor.Invocation → Activity Host.Files Reply} {settings : Settings}
  {l : Library} {files : Host.Files} (x : Session extract settings l files)

/-- The run of the extractor in a session. -/
def outcome : Option Extractor.Outcome :=
  Extractor.run (limitsOf settings) settings.extractor x.course x.schedule

theorem search :
    (declarations (scratchServices (storageOf settings) extract) settings l).run files =
      (decodeReply (replyOf x.outcome), x.left.remove x.file.path) := by
  have hStored : ((scratchServices (storageOf settings) extract).store l).run files =
      (.given x.file, x.stored) := by
    simp only [scratchServices, Activity.run_bind, x.stores, Activity.run_pure]
  have hRun : ((scratchServices (storageOf settings) extract).extract
      (.extract settings x.file.text)).run x.stored = (replyOf x.outcome, x.left) := x.runs
  rw [declarations_run, hStored]
  simp only [hRun]
  rfl

end Session

/-! ## Sessions on a host -/

/-- The reply that a performance comes to. -/
def answerOf : Option (Option Extractor.Performance) → Reply
  | some (some p) =>
    match p.result with
    | .ok octets => .given octets
    | .error e => .failed e
  | _ => .brokenOff

theorem extractOn_fst (schedule : Extractor.Schedule) (settings : Settings)
    (files : Host.Files) (i : Extractor.Invocation) :
    (extractOn schedule settings i files).1 =
      answerOf (Extractor.perform (limitsOf settings) schedule files i) := by
  unfold extractOn answerOf
  rcases Extractor.perform (limitsOf settings) schedule files i with _ | _ | p
  · rfl
  · rfl
  · cases hResult : p.result with
    | ok octets => simp only [hResult]
    | error e => simp only [hResult]

/-- What was followed far enough is a run of what was followed. -/
theorem answerOf_performUntil {limits : Extractor.Limits} {schedule : Extractor.Schedule}
    {files : Host.Files} {i : Extractor.Invocation} {m : Host.Machine} {horizon : Option Nat}
    (h : horizon = none ∨
      Extractor.performUntil limits schedule files i m horizon ≠ none) :
    answerOf (Extractor.performUntil limits schedule files i m horizon) =
      replyOf (Extractor.run limits i.program (Extractor.Process.follow m horizon).course
        schedule) := by
  unfold Extractor.performUntil at h ⊢
  dsimp only at h ⊢
  cases hRun : Extractor.run limits i.program (Extractor.Process.follow m horizon).course
      schedule with
  | none => rfl
  | some outcome =>
    rw [hRun] at h
    cases outcome with
    | overflow => rfl
    | returned a =>
      have hEnough : ¬ horizon.any (· < a.ended) = true := by
        intro hShort
        rcases h with rfl | h
        · cases hShort
        · simp only [hShort, if_true] at h
          exact h rfl
      simp only [if_neg hEnough]
      rfl

/-- On a host the extractor is a process that was followed up to some horizon. -/
theorem extractOn_reply (schedule : Extractor.Schedule) (settings : Settings)
    {files : Host.Files} {i : Extractor.Invocation} {m : Host.Machine}
    (hMachine : Extractor.Process.machine files i = .ok m) :
    ∃ horizon, (extractOn schedule settings i files).1 =
      replyOf (Extractor.run (limitsOf settings) i.program
        (Extractor.Process.follow m horizon).course schedule) := by
  rw [extractOn_fst, Extractor.perform, hMachine]
  cases Extractor.horizon (limitsOf settings) schedule with
  | none => exact ⟨none, answerOf_performUntil (.inl rfl)⟩
  | some horizon =>
    dsimp only
    cases hFirst : Extractor.performUntil (limitsOf settings) schedule files i m (some horizon) with
    | none => exact ⟨none, answerOf_performUntil (.inl rfl)⟩
    | some p =>
      refine ⟨some horizon, ?_⟩
      rw [← answerOf_performUntil (.inr (hFirst ▸ Option.some_ne_none p)), hFirst]
      rfl

/-- Whenever a stub can be stored on a host and the extractor be started there, the search for the
declarations is a session. -/
theorem exists_session_onHost (schedule : Extractor.Schedule) (settings : Settings) {l : Library}
    {files stored : Host.Files} {file : Scratch.File} {m : Host.Machine}
    (hStored : ((storageOf settings).create l).run files = (.ok file, stored))
    (hMachine : Extractor.Process.machine stored (.extract settings file.text) = .ok m) :
    ∃ x : Session (fun i => .atomic (extractOn schedule settings i)) settings l files,
      x.file = file ∧ x.stored = stored ∧ x.schedule = schedule ∧
        ∃ horizon, x.course = (Extractor.Process.follow m horizon).course := by
  obtain ⟨horizon, hReply⟩ := extractOn_reply schedule settings hMachine
  exact ⟨⟨file, stored, (Extractor.Process.follow m horizon).course, schedule,
    (extractOn schedule settings (.extract settings file.text) stored).2, hStored,
    Prod.ext hReply rfl⟩, rfl, rfl, rfl, horizon, rfl⟩

end BindingCoverage.Verification
