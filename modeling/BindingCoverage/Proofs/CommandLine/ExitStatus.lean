import BindingCoverage.Proofs.CommandLine.Check
import BindingCoverage.Proofs.Coverage.Report
import BindingCoverage.Proofs.Dump.Delivery
import BindingCoverage.Proofs.Dump.Document

/-!
# How a check of a saved dump ends

* `SymbolList.mem_symbols`: what a symbol list names.
* `Dump.decodeFile_functions`: a dump that decodes is one in a file, and the names are those of its
  functions.
* `run_check_status`: the exit status of a check, with and without the flag that asks for a failure
  when functions are missing.
-/

namespace BindingCoverage

/-! ## What the files say -/

/-- A line of the text is the name, once it is trimmed; a blank line and a comment are none. -/
def SymbolList.Names (text name : String) : Prop :=
  (∃ line ∈ Text.lines text, Text.trim line = name) ∧ name ≠ "" ∧ ¬ Text.startsWith name "#"

theorem SymbolList.isSymbol_iff {line : String} :
    isSymbol line ↔ line ≠ "" ∧ ¬ Text.startsWith line "#" := by
  have hComment : Text.startsWith line "#" ↔ line.toList.head? = some '#' := by
    change ['#'].isPrefixOf line.toList ↔ _
    cases line.toList with
    | nil => exact iff_of_false nofun nofun
    | cons c rest =>
      simp only [List.isPrefixOf, Bool.and_true, beq_iff_eq, List.head?_cons, Option.some.injEq]
      exact eq_comm
  rw [hComment, isSymbol, Bool.and_eq_true, bne_iff_ne, Bool.not_eq_true', ← Bool.not_eq_true,
    String.isEmpty_iff]

theorem SymbolList.mem_symbols {text name : String} : name ∈ symbols text ↔ Names text name := by
  rw [symbols, List.mem_filter, List.mem_map, isSymbol_iff, Names]

namespace Dump

/-- These are the names of the functions of a dump: of its function elements that are within no
other one. -/
def FunctionNames (octets : List UInt8) (names : List String) : Prop :=
  ∃ tag inner, (Xml.read (.whole octets)).IsDocument tag inner ∧
    names = (declarationsIn (.element tag inner .nothing)).map (·.name)

theorem mem_names_distinct {found : List Declaration} {name : String} :
    name ∈ DeclarationSet.names ⟨DeclarationSet.distinct found⟩ ↔ name ∈ found.map (·.name) := by
  rw [← DeclarationSet.firstOccurrences_nil, DeclarationSet.names,
    DeclarationSet.mem_names_firstOccurrences, and_iff_left List.not_mem_nil]

/-- What is no file holds no dump. -/
theorem decode_feedOf_of_no_file {node : Host.Node}
    (h : ∀ octets isExecutable, node ≠ .file octets isExecutable) (expected : DeclarationSet) :
    decode (feedOf node) ≠ .ok expected := by
  have hEmpty : (decode (.buffered pieceSize [] none)).isOk = false := by decide +kernel
  have hFails : (decode (feedOf node)).isOk = false := by
    cases node with
    | file octets isExecutable => exact absurd rfl (h octets isExecutable)
    | directory => rfl
    | device kind => exact hEmpty
    | descriptor number => exact hEmpty
    | program name => exact hEmpty
  intro hDecoded
  rw [hDecoded] at hFails
  cases hFails

theorem file_of_decodeFile {files : Host.Files} {path : String} {expected : DeclarationSet}
    (h : decodeFile files path = .ok expected) :
    ∃ octets isExecutable, files.node path = .ok (.file octets isExecutable) := by
  unfold decodeFile at h
  cases hNode : files.node path with
  | error e =>
    rw [hNode] at h
    cases h
  | ok node =>
    rw [hNode] at h
    by_contra hNone
    simp only [not_exists] at hNone
    exact decode_feedOf_of_no_file
      (fun octets isExecutable hSame => hNone octets isExecutable (congrArg Except.ok hSame))
      expected h

theorem decodeFile_functions {files : Host.Files} {path : String} {expected : DeclarationSet}
    (h : decodeFile files path = .ok expected) :
    ∃ octets isExecutable names, files.node path = .ok (.file octets isExecutable) ∧
      FunctionNames octets names ∧ ∀ name, name ∈ expected.names ↔ name ∈ names := by
  obtain ⟨octets, isExecutable, hFile⟩ := file_of_decodeFile h
  rw [decodeFile_file hFile] at h
  obtain ⟨tag, inner, hDocument, -, rfl⟩ := decode_eq_ok_iff.mp h
  exact ⟨octets, isExecutable, _, hFile, ⟨tag, inner, hDocument, rfl⟩,
    fun name => mem_names_distinct⟩

end Dump

namespace CommandLine

/-- Every one of these names that begins with the prefix is named in the symbol list. -/
def Covers (symbolPrefix text : String) (names : List String) : Prop :=
  ∀ name ∈ names, Text.startsWith name symbolPrefix → SymbolList.Names text name

theorem isComplete_iff_covers {symbolPrefix text : String} {expected : DeclarationSet}
    {names : List String} (hNames : ∀ name, name ∈ expected.names ↔ name ∈ names) :
    (CoverageReport.compare symbolPrefix expected (SymbolList.symbols text)).isComplete ↔
      Covers symbolPrefix text names := by
  rw [CoverageReport.isComplete_compare]
  refine forall_congr' fun name => ?_
  rw [hNames, SymbolList.mem_symbols]

/-! ## How commands end -/

theorem outcomeOf_error {α : Type} (print : α → Outcome) (e : Failure) :
    (outcomeOf print (.error e)).status ≠ 0 ∧ (outcomeOf print (.error e)).stdout = "" := by
  cases e with
  | brokenOff => exact ⟨(by decide : (101 : Nat) ≠ 0), rfl⟩
  | _ => exact ⟨Nat.one_ne_zero, rfl⟩

/-- The flag decides about the status alone. -/
theorem reportOutcome_stdout (failOnMissing json : Bool) (report : CoverageReport) :
    (reportOutcome failOnMissing json report).stdout = reportOutput json report := by
  unfold reportOutcome
  split
  · rfl
  · rfl

theorem reportOutcome_status (failOnMissing json : Bool) (report : CoverageReport) :
    (reportOutcome failOnMissing json report).status =
      if failOnMissing && !report.isComplete then 1 else 0 := by
  unfold reportOutcome
  split
  · rfl
  · rfl

theorem run_of_check {s : Surroundings} {args : List String} {r : CheckRequest}
    {failOnMissing json : Bool} (files : Host.Files)
    (hArgs : Command.ofArguments args = .ok (.check r failOnMissing json)) :
    ((run s args).run files).1 =
      outcomeOf (reportOutcome failOnMissing json) ((check s r).run files).1 := by
  unfold run
  rw [hArgs]
  rfl

/-- Without a dump that decodes and a symbol list that can be read there is no report. -/
theorem report_fails {files : Host.Files} {path implemented : String} (l : Library)
    (h : (∀ expected, Dump.decodeFile files path ≠ .ok expected) ∨
      ∀ text, files.readText implemented ≠ .ok text) :
    ∃ e, (saved files path >>= reportIn files l implemented) = .error e := by
  unfold saved
  cases hDecoded : Dump.decodeFile files path with
  | error e => exact ⟨.dump path e, rfl⟩
  | ok expected =>
    cases hText : files.readText implemented with
    | error e =>
      refine ⟨.symbols implemented e, ?_⟩
      change reportIn files l implemented expected = _
      rw [reportIn, symbolsIn, hText]
      rfl
    | ok text =>
      rcases h with hDump | hList
      · exact absurd hDecoded (hDump expected)
      · exact absurd hText (hList text)

/-- A check of a saved dump tells the truth by its exit status. If the dump decodes and the symbol
list can be read, the status is zero; with the flag it is so exactly if every function of the dump
with the prefix of the library is named in the list, and else one, and what is printed is the same.
If one of the two files cannot be read, the check fails and prints nothing, with and without the
flag. -/
theorem run_check_status (s : Surroundings) {l : Library} {r : CheckRequest} {path : String}
    {json : Bool} {args : Bool → List String} (hLibrary : r.library = l.key)
    (hDump : r.dump = some path)
    (hArgs : ∀ failOnMissing,
      Command.ofArguments (args failOnMissing) = .ok (.check r failOnMissing json))
    (files : Host.Files) :
    let outcome failOnMissing := ((run s (args failOnMissing)).run files).1
    (∀ expected text, Dump.decodeFile files path = .ok expected →
      files.readText r.implemented = .ok text →
      (outcome false).status = 0 ∧ (outcome true).stdout = (outcome false).stdout ∧
        ∃ octets isExecutable names, files.node path = .ok (.file octets isExecutable) ∧
          Dump.FunctionNames octets names ∧
          ((outcome true).status = 0 ∧ Covers l.symbolPrefix text names ∨
            (outcome true).status = 1 ∧ ¬ Covers l.symbolPrefix text names)) ∧
    ((∀ expected, Dump.decodeFile files path ≠ .ok expected) ∨
        (∀ text, files.readText r.implemented ≠ .ok text) →
      ∀ failOnMissing,
        (outcome failOnMissing).status ≠ 0 ∧ (outcome failOnMissing).stdout = "") := by
  intro outcome
  have hOutcome (failOnMissing : Bool) : outcome failOnMissing =
      outcomeOf (reportOutcome failOnMissing json)
        (saved files path >>= reportIn files l r.implemented) := by
    refine (run_of_check files (hArgs failOnMissing)).trans ?_
    rw [check_run_saved hLibrary hDump]
  constructor
  · intro expected text hDecoded hText
    have hReport (failOnMissing : Bool) : outcome failOnMissing = reportOutcome failOnMissing json
        (.compare l.symbolPrefix expected (SymbolList.symbols text)) := by
      rw [hOutcome, saved, hDecoded]
      change outcomeOf _ (reportIn files l r.implemented expected) = _
      rw [reportIn_eq_ok hText]
      rfl
    obtain ⟨octets, isExecutable, names, hFile, hFunctions, hNames⟩ :=
      Dump.decodeFile_functions hDecoded
    refine ⟨?_, ?_, octets, isExecutable, names, hFile, hFunctions, ?_⟩
    · rw [hReport, reportOutcome_status]
      rfl
    · rw [hReport, hReport, reportOutcome_stdout, reportOutcome_stdout]
    · rw [← isComplete_iff_covers hNames, hReport, reportOutcome_status]
      cases CoverageReport.isComplete _ with
      | true => exact .inl ⟨rfl, rfl⟩
      | false => exact .inr ⟨rfl, Bool.false_ne_true⟩
  · intro hUnread failOnMissing
    obtain ⟨e, hError⟩ := report_fails l hUnread
    rw [hOutcome, hError]
    exact outcomeOf_error _ e

/-- A dump with three functions, of which one is no function of the library and another one is named
in a comment only. -/
def commentedFiles : Host.Files where
  nodes := [([], .directory),
    (["dump"], .file (Utf8.encode ("<r><Function name='rados_open'/><Function name='foo'/>" ++
      "<Function name='rados_close'/></r>")) false),
    (["symbols"], .file (Utf8.encode "# rados_close\n\n \trados_open\r\n") false)]
  working := []

def checkArguments (failOnMissing : Bool) : List String :=
  ["check", "--library", "rados", "--implemented", "/symbols", "--xml", "/dump"] ++
    if failOnMissing then ["--fail-on-missing"] else []

/-- Without the flag the function that is missing is only reported, with it the check fails. -/
theorem run_check_status_commented :
    let s := Surroundings.onHost { start := ⟨1000, 0⟩ } none
    let outcome failOnMissing := ((run s (checkArguments failOnMissing)).run commentedFiles).1
    (outcome true).stdout = "Coverage for rados_: 1/2 implemented\nMissing:\n  - rados_close\n" ∧
      (outcome false).stdout = (outcome true).stdout ∧ (outcome false).status = 0 ∧
      (outcome true).status = 1 := by
  intro s outcome
  have hArgs (failOnMissing : Bool) : Command.ofArguments (checkArguments failOnMissing) =
      .ok (.check { library := "rados", implemented := "/symbols", dump := some "/dump" }
        failOnMissing false) := by
    cases failOnMissing <;> decide +kernel
  have hDecoded : Dump.decodeFile commentedFiles "/dump" =
      .ok ⟨[.named "rados_open", .named "foo", .named "rados_close"]⟩ := by decide +kernel
  obtain ⟨hZero, hSame, -⟩ := (run_check_status s (l := .rados) rfl rfl hArgs commentedFiles).1 _
    "# rados_close\n\n \trados_open\r\n" hDecoded (by decide +kernel)
  exact ⟨by decide +kernel, hSame.symm, hZero, by decide +kernel⟩

end CommandLine

end BindingCoverage
