import BindingCoverage.Proofs.CommandLine.Check
import BindingCoverage.Proofs.Dump.Delivery
import BindingCoverage.Proofs.Verification.Extraction

/-!
# Saved dumps and live extractors

A check gives the same report on what the extractor writes and on a file that holds the same
octets. If they are no dump, both checks fail with the same error of the decoder, each in a context
of its own.

* `check_run_kept`, `check_run_session`: the two checks, up to how the octets decode.
* `check_agreement`: both together, and where they part: the live check breaks off if the clock does
  not reach to the end of the limit. `check_parts_beyond_clock` is such a pair of checks.
-/

namespace BindingCoverage.CommandLine

open Verification (Session scratchServices storageOf limitsOf replyOf decodeReply)

variable {s : Surroundings} {l : Library} {r : CheckRequest} {files : Host.Files}

/-- The check of a dump in a file. -/
theorem check_run_kept (hLibrary : r.library = l.key) {path : String} (hDump : r.dump = some path)
    {octets : List UInt8} {isExecutable : Bool}
    (hFile : files.node path = .ok (.file octets isExecutable)) :
    (check s r).run files =
      ((Dump.decodeOctets octets).mapError (.dump path) >>= reportIn files l r.implemented,
        files) := by
  rw [check_run_saved hLibrary hDump, saved, Dump.decodeFile_file hFile]

/-- The check of what the extractor replies in a session. -/
theorem check_run_session {settings : Settings}
    {extract : Extractor.Invocation → Activity Host.Files Verification.Reply}
    (hLibrary : r.library = l.key) (hDump : r.dump = none)
    (hSettings : Settings.resolve files s.extractor r.options = .ok settings)
    (hServices : s.services settings = scratchServices (storageOf settings) extract)
    (x : Session extract settings l files) :
    (check s r).run files =
      let left := x.left.remove x.file.path
      (declared l (decodeReply (replyOf x.outcome)) >>= reportIn left l r.implemented, left) := by
  rw [check_run hLibrary, found_run_extracted hDump hSettings, hServices, x.search]

theorem declared_given (l : Library) (octets : List UInt8) :
    declared l (decodeReply (.given octets)) =
      (Dump.decodeOctets octets).mapError fun e => .extraction l (.dump e) := by
  unfold decodeReply
  cases hDecoded : Dump.decodeOctets octets with
  | ok d => simp only [hDecoded]; rfl
  | error e => simp only [hDecoded]; rfl

/-- The extractor of a session succeeds within its limits, and writes octets. A check that runs it
leaves what the extractor leaves, without the stub. As long as the clock reaches to the end of the
limit, it ends like the check of any file with these octets: with the report on what they decode to,
for the same symbol list, or else with the same error of the decoder, in another context. Beyond
the clock it breaks off. -/
theorem check_agreement {settings : Settings}
    {extract : Extractor.Invocation → Activity Host.Files Verification.Reply} {seen : Nat}
    {octets : List UInt8} (hLibrary : r.library = l.key)
    (hSettings : Settings.resolve files s.extractor r.options = .ok settings)
    (hServices : s.services settings = scratchServices (storageOf settings) extract)
    (x : Session extract settings l files)
    (hDelivers : Extractor.Delivers (limitsOf settings) x.course x.schedule seen octets) :
    let live := (check s { r with dump := none }).run files
    live.2 = x.left.remove x.file.path ∧ (x.left = x.stored → live.2 = files) ∧
    (¬ Extractor.Expressible (limitsOf settings) x.schedule seen → live.1 = .error .brokenOff) ∧
    (Extractor.Expressible (limitsOf settings) x.schedule seen →
      ∀ (others : Host.Files) (path : String) (isExecutable : Bool),
        others.node path = .ok (.file octets isExecutable) →
        let kept := (check s { r with dump := some path }).run others
        kept.2 = others ∧
        (∀ expected text, Dump.decodeOctets octets = .ok expected →
          live.2.readText r.implemented = .ok text → others.readText r.implemented = .ok text →
          let report := CoverageReport.compare l.symbolPrefix expected (SymbolList.symbols text)
          live.1 = .ok report ∧ kept.1 = .ok report) ∧
        ∀ e, Dump.decodeOctets octets = .error e →
          live.1 = .error (.extraction l (.dump e)) ∧ kept.1 = .error (.dump path e) ∧
            (Failure.extraction l (.dump e)).chain.tail = (Failure.dump path e).chain.tail) := by
  intro live
  have hLive : live = (declared l (decodeReply (replyOf x.outcome)) >>=
      reportIn (x.left.remove x.file.path) l r.implemented, x.left.remove x.file.path) :=
    check_run_session (r := { r with dump := none }) hLibrary rfl hSettings hServices x
  obtain ⟨hReturned, hOverflow⟩ := Extractor.run_of_delivers hDelivers settings.extractor
  refine ⟨?_, ?_, ?_, ?_⟩
  · rw [hLive]
  · intro hUntouched
    rw [hLive, hUntouched]
    exact Verification.remove_of_create x.stores
  · intro hBeyond
    have hOutcome : x.outcome = some .overflow := hOverflow hBeyond
    rw [hLive, hOutcome]
    rfl
  · intro hReached others path isExecutable hFile kept
    have hKept : kept = ((Dump.decodeOctets octets).mapError (.dump path) >>=
        reportIn others l r.implemented, others) :=
      check_run_kept (r := { r with dump := some path }) hLibrary rfl hFile
    obtain ⟨ended, hRun⟩ := hReturned hReached
    have hOutcome : x.outcome = some (.returned ⟨.ok octets, [], ended⟩) := hRun
    have hFound : live = ((Dump.decodeOctets octets).mapError (fun e => .extraction l (.dump e)) >>=
        reportIn (x.left.remove x.file.path) l r.implemented, x.left.remove x.file.path) := by
      rw [hLive, hOutcome, ← declared_given]
      rfl
    refine ⟨by rw [hKept], ?_, ?_⟩
    · intro expected text hDecoded hText hText'
      rw [hFound] at hText ⊢
      rw [hKept, hDecoded]
      exact ⟨reportIn_eq_ok hText l expected, reportIn_eq_ok hText' l expected⟩
    · intro e hDecoded
      rw [hFound, hKept, hDecoded]
      exact ⟨rfl, rfl, rfl⟩

/-! ## A prompt extractor -/

/-- Whatever is called as the extractor is a process with this course, which leaves the files
alone. -/
def extractorWith (c : Extractor.Course) (schedule : Extractor.Schedule) (settings : Settings)
    (_ : Extractor.Invocation) : Activity Host.Files Verification.Reply :=
  .atomic fun files =>
    (replyOf (Extractor.run (limitsOf settings) settings.extractor c schedule), files)

def sampleDump : String := "<r><Function name='rados_open'/></r>"

def sampleSchedule : Extractor.Schedule where
  start := ⟨1000, 0⟩

/-- Surroundings in which the extractor writes a dump and soon ends. -/
def sampleSurroundings : Surroundings where
  services settings := scratchServices (storageOf settings)
    (extractorWith (Extractor.prompt sampleDump) sampleSchedule settings)

/-- Files with the same dump and a symbol list. -/
def sampleFiles : Host.Files where
  nodes := [([], .directory), (["tmp"], .directory),
    (["symbols"], .file (Utf8.encode "rados_open\n") false),
    (["dump"], .file (Utf8.encode sampleDump) false)]
  working := []

/-- A check with a limit in seconds. -/
def requestWithin (seconds : UInt64) : CheckRequest where
  library := "rados"
  implemented := "/symbols"
  options := { timeoutSecs := some seconds }

def sampleSettings : Settings := { timeoutSecs := some 30 }

def sampleStub : Scratch.File := ⟨"/tmp/.tmp000000-rados.c", ["tmp", ".tmp000000-rados.c"]⟩

def sampleSession : Session (extractorWith (Extractor.prompt sampleDump) sampleSchedule
    sampleSettings) sampleSettings .rados sampleFiles where
  file := sampleStub
  stored := sampleFiles.put sampleStub.path (.file (Utf8.encode Library.rados.stub) false)
  course := Extractor.prompt sampleDump
  schedule := sampleSchedule
  left := sampleFiles.put sampleStub.path (.file (Utf8.encode Library.rados.stub) false)
  stores := Prod.ext (by decide +kernel) (by decide +kernel)
  runs := rfl

/-- No look at the process while it runs comes later than after two milliseconds. -/
theorem sample_delivers : ∃ seen,
    Extractor.Expressible (limitsOf sampleSettings) sampleSchedule seen ∧
      Extractor.Delivers (limitsOf sampleSettings) (Extractor.prompt sampleDump) sampleSchedule seen
        (Utf8.encode sampleDump) := by
  have hTime : ∀ n, sampleSchedule.lookAt n < 2000000 → ∀ limit,
      (limitsOf sampleSettings).timeout = some limit →
        sampleSchedule.clockAt n < limit.nanos := by
    rintro n hn limit ⟨⟩
    exact hn.trans (by decide)
  obtain ⟨seen, hSeen, hWait⟩ :=
    Extractor.wait_of_exit (c := Extractor.prompt sampleDump) rfl rfl rfl hTime
  have hClock : sampleSchedule.start.after? 110000000 ≠ none := by decide
  refine ⟨seen, ⟨Extractor.Instant.after?_of_le ?_ hClock, ?_⟩, ⟨.exited 0, rfl, hWait⟩, ?_, ?_⟩
  · exact Nat.add_le_add_right (hSeen 1 (by decide)) _
  · rintro limit ⟨⟩
    decide
  · intro x
    refine ⟨2000000, ?_, ?_⟩
    · cases x <;> decide +kernel
    · rintro limit ⟨⟩
      exact le_max_of_le_left (by decide)
  · decide +kernel

/-- With half a minute, the check of what the extractor writes is that of the saved dump. -/
theorem check_agreement_sample :
    let live := (check sampleSurroundings (requestWithin 30)).run sampleFiles
    let kept := (check sampleSurroundings { requestWithin 30 with dump := some "/dump" }).run
      sampleFiles
    live.1 = .ok ⟨"rados_", ["rados_open"], [], []⟩ ∧ kept.1 = live.1 ∧ live.2 = sampleFiles := by
  intro live kept
  obtain ⟨seen, hReached, hDelivers⟩ := sample_delivers
  have hSettings : Settings.resolve sampleFiles sampleSurroundings.extractor
      (requestWithin 30).options = .ok sampleSettings := rfl
  obtain ⟨-, hFiles, -, hAgree⟩ := check_agreement (r := requestWithin 30) (l := .rados) rfl
    hSettings rfl sampleSession hDelivers
  have hLeft : live.2 = sampleFiles := hFiles rfl
  obtain ⟨-, hReports, -⟩ := hAgree hReached sampleFiles "/dump" false (by decide +kernel)
  have hText : sampleFiles.readText "/symbols" = .ok "rados_open\n" := by decide +kernel
  have hDecoded : Dump.decodeOctets (Utf8.encode sampleDump) = .ok ⟨[.named "rados_open"]⟩ := by
    decide +kernel
  obtain ⟨hLive, hKept⟩ := hReports _ _ hDecoded (hLeft.symm ▸ hText) hText
  exact ⟨hLive.trans (by decide +kernel), hKept.trans hLive.symm, hLeft⟩

/-- With the greatest number of seconds, the check of what the same extractor writes breaks off. -/
theorem check_parts_beyond_clock :
    ((check sampleSurroundings (requestWithin 18446744073709551615)).run sampleFiles).1 =
      .error .brokenOff ∧
    ((check sampleSurroundings
      { requestWithin 18446744073709551615 with dump := some "/dump" }).run sampleFiles).1 =
        .ok ⟨"rados_", ["rados_open"], [], []⟩ :=
  ⟨by decide +kernel, by decide +kernel⟩

end BindingCoverage.CommandLine
