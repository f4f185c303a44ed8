import BindingCoverage.CommandLine.Execution
import BindingCoverage.Proofs.Coverage.Registry

/-!
# What a check does

A check finds the declarations of a library, in a saved dump or with the extractor, then reads a
symbol list, and compares the two.

* `reportOn_eq`: for a library there is always a report.
* `check_run`: a check is what finds the declarations, and then the comparison.
* `found_run_saved`, `found_run_extracted`: the two ways to find them.
-/

namespace BindingCoverage.CommandLine

/-! ## Running what may fail -/

section

variable {α β : Type}

theorem run_bind (x : ExceptT Failure (StateM Host.Files) α)
    (f : α → ExceptT Failure (StateM Host.Files) β) (files : Host.Files) :
    (x >>= f).run files =
      match x.run files with
      | (.ok a, files) => (f a).run files
      | (.error e, files) => (.error e, files) := by
  have hState {γ : Type} (y : StateM Host.Files γ) (g : γ → StateM Host.Files (Except Failure β)) :
      (y >>= g) files = g (y files).1 (y files).2 := rfl
  rw [ExceptT.run_bind, hState]
  rcases x.run files with ⟨e | a, files'⟩
  · rfl
  · rfl

theorem run_lift (x : Except Failure α) (files : Host.Files) :
    (liftM x : ExceptT Failure (StateM Host.Files) α).run files = (x, files) := rfl

theorem run_state (x : StateM Host.Files α) (files : Host.Files) :
    (liftM x : ExceptT Failure (StateM Host.Files) α).run files = (.ok (x files).1, (x files).2) :=
  rfl

theorem run_get (files : Host.Files) :
    (get : ExceptT Failure (StateM Host.Files) Host.Files).run files = (.ok files, files) := rfl

end

/-! ## Finding and comparing -/

theorem libraryOf_key (l : Library) : libraryOf l.key = .ok l := by
  cases l <;> rfl

theorem reportOn_eq (l : Library) (expected : DeclarationSet) (implemented : List String) :
    reportOn l expected implemented = .ok (.compare l.symbolPrefix expected implemented) := by
  have hReport : (Registry.empty.put l expected).report? l.symbolPrefix implemented =
      some (.compare l.symbolPrefix expected implemented) := by
    rw [Registry.report?, Registry.expected?_put_self]
    rfl
  simp only [reportOn, Registry.register_library, Except.mapError, bind, Except.bind, hReport]
  rfl

/-- The comparison of declarations with the symbol list in a file. -/
def reportIn (files : Host.Files) (l : Library) (implemented : String) (expected : DeclarationSet) :
    Except Failure CoverageReport :=
  (symbolsIn files implemented).map (.compare l.symbolPrefix expected)

theorem reportIn_eq_ok {files : Host.Files} {implemented text : String}
    (h : files.readText implemented = .ok text) (l : Library) (expected : DeclarationSet) :
    reportIn files l implemented expected =
      .ok (.compare l.symbolPrefix expected (SymbolList.symbols text)) := by
  simp only [reportIn, symbolsIn, h]
  rfl

/-- What a check does first: it finds the declarations of a library. -/
def found (s : Surroundings) (l : Library) (r : CheckRequest) :
    ExceptT Failure (StateM Host.Files) DeclarationSet :=
  match r.dump with
  | some path => do saved (← get) path
  | none => extracted s l r.options

variable {s : Surroundings} {l : Library} {r : CheckRequest} {files : Host.Files}

theorem check_run (hLibrary : r.library = l.key) :
    (check s r).run files =
      let first := (found s l r).run files
      (first.1 >>= reportIn first.2 l r.implemented, first.2) := by
  have hCheck : check s r = (found s l r >>= fun expected => do
      let implemented ← symbolsIn (← get) r.implemented
      reportOn l expected implemented) := by
    unfold check found
    rw [hLibrary, libraryOf_key]
    cases r.dump with
    | some path => rfl
    | none => rfl
  rw [hCheck, run_bind]
  rcases (found s l r).run files with ⟨e | d, files'⟩
  · rfl
  · simp only [run_bind, run_lift, run_get, reportOn_eq]
    change _ = (reportIn files' l r.implemented d, files')
    unfold reportIn
    cases symbolsIn files' r.implemented with
    | error e => rfl
    | ok names => rfl

/-- A saved dump is all that counts, and nothing is changed. -/
theorem found_run_saved {path : String} (hDump : r.dump = some path) :
    (found s l r).run files = (saved files path, files) := by
  unfold found
  rw [hDump]
  rfl

theorem check_run_saved (hLibrary : r.library = l.key) {path : String}
    (hDump : r.dump = some path) :
    (check s r).run files = (saved files path >>= reportIn files l r.implemented, files) := by
  rw [check_run hLibrary, found_run_saved hDump]

/-- How a search for declarations ends a command, or lets it go on. -/
def declared (l : Library) :
    Verification.Answer Verification.Error DeclarationSet → Except Failure DeclarationSet
  | .given d => .ok d
  | .failed e => .error (.extraction l e)
  | .brokenOff => .error .brokenOff

theorem extracted_run {o : Settings.Options} {settings : Settings}
    (hSettings : Settings.resolve files s.extractor o = .ok settings) :
    (extracted s l o).run files =
      let search := (Verification.declarations (s.services settings) settings l).run files
      (declared l search.1, search.2) := by
  simp only [extracted, run_bind, run_get, hSettings, run_state]
  rcases (Verification.declarations (s.services settings) settings l).run files with
    ⟨d | e | _, files'⟩
  · rfl
  · rfl
  · rfl

theorem found_run_extracted {settings : Settings} (hDump : r.dump = none)
    (hSettings : Settings.resolve files s.extractor r.options = .ok settings) :
    (found s l r).run files =
      let search := (Verification.declarations (s.services settings) settings l).run files
      (declared l search.1, search.2) := by
  unfold found
  rw [hDump]
  exact extracted_run hSettings

end BindingCoverage.CommandLine
