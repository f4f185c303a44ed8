import BindingCoverage.Proofs.CommandLine.Check
import BindingCoverage.Proofs.Host.Files
import BindingCoverage.Proofs.Json.Layout
import BindingCoverage.Proofs.Json.Record
import BindingCoverage.Proofs.Verification.Findings
import BindingCoverage.Settings.File

/-!
# Layers of settings

A file states some of the settings, the environment may name an extractor, and options come before
both. Every setting is taken from the first of its own sources that has it.

* `Stated.ofJson_of_writes`: every layout of the JSON of what a file states is read as the settings
  that it stems from.
* `resolve_of_stated`: the settings of a run, by what the file states.
* `extracted_run_invocation`: a search runs the extractor once, with the program and the arguments
  that the settings ask for.
-/

namespace BindingCoverage

open Json (Assigns Takes Writes Blanks Record)

namespace Settings

/-! ## What a file states -/

/-- The settings that are written in a file. -/
structure Stated where
  extractor : Option String := none
  extraArgs : Option (List String) := none
  timeoutSecs : Option UInt64 := none
  scratchDir : Option String := none

namespace Stated

def toJson (x : Stated) : Json :=
  .object (
    Json.optionalField "extractor_bin" (x.extractor.map .string) ++
    Json.optionalField "extra_args" (x.extraArgs.map fun args => .array (args.map .string)) ++
    Json.optionalField "timeout_secs" (x.timeoutSecs.map fun n => .number (.natural n.toNat)) ++
    Json.optionalField "scratch_dir" (x.scratchDir.map .string))

/-- What is not stated is as the defaults have it. -/
def settings (x : Stated) : Settings where
  extractor := x.extractor.getD "castxml"
  extraArgs := x.extraArgs.getD []
  timeoutSecs := x.timeoutSecs
  scratchDir := x.scratchDir

end Stated

/-- What is written of settings. -/
def stated (s : Settings) : Stated where
  extractor := some s.extractor
  extraArgs := if s.extraArgs.isEmpty then none else some s.extraArgs
  timeoutSecs := s.timeoutSecs
  scratchDir := s.scratchDir

theorem settings_stated (s : Settings) : s.stated.settings = s := by
  obtain ⟨extractor, _ | ⟨arg, rest⟩, timeoutSecs, scratchDir⟩ := s
  · rfl
  · rfl

theorem toJson_stated (s : Settings) : s.stated.toJson = s.toJson := by
  obtain ⟨extractor, _ | ⟨arg, rest⟩, timeoutSecs, scratchDir⟩ := s
  · rfl
  · rfl

namespace Stated

theorem takes (depth : Nat) (x : Stated) :
    Takes record.decoder (depth + 3) x.toJson x.settings := by
  refine Record.takes (by decide) ?_
  rw [← List.append_nil (Json.optionalField "scratch_dir" _)]
  simp only [List.append_assoc]
  refine .default (fun (s : Settings) v => { s with extractor := v }) (Json.takes_string _ _)
    (by rfl) ?_
  refine .default (fun (s : Settings) v => { s with extraArgs := v })
    (Json.takes_list_map (Json.takes_string "a string" _)) (by rfl) ?_
  refine .optional (fun (s : Settings) v => { s with timeoutSecs := v }) (Json.takes_u64 _)
    (by rfl) ?_
  exact .optional (fun (s : Settings) v => { s with scratchDir := v }) (Json.takes_string _ _)
    (by rfl) .nil

/-- Every way to write what a file states is read as the settings. -/
theorem ofJson_of_writes {x : Stated} {text after : List UInt8} (h : Writes x.toJson text)
    (hAfter : Blanks after) : ofJson (text ++ after) = .ok x.settings :=
  Json.Decoder.run_takes (takes 125 x) h hAfter

end Stated

/-- This is what is stated, if a file is named, in JSON in that file. -/
inductive Says (files : Host.Files) : Option String → Stated → Prop
  | nothing : Says files none {}
  | json {path text : String} {x : Stated} {written after : List UInt8}
      (hPath : isYamlPath path = false) (hFile : files.readOctets path = .ok (Utf8.encode text))
      (hText : Utf8.encode text = written ++ after) (hWrites : Writes x.toJson written)
      (hAfter : Blanks after) : Says files (some path) x

variable {files : Host.Files} {path : String}

theorem load_eq_ofJson {text : String} (hPath : isYamlPath path = false)
    (hFile : files.readOctets path = .ok (Utf8.encode text)) :
    load files path = (ofJson (Utf8.encode text)).mapError (.json path) := by
  rw [load, Host.Files.readText_eq_ok hFile]
  simp only [hPath, Bool.false_eq_true, if_false]

theorem load_of_stated {x : Stated} (h : Says files (some path) x) :
    load files path = .ok x.settings := by
  cases h with
  | json hPath hFile hText hWrites hAfter =>
    rw [load_eq_ofJson hPath hFile, hText, Stated.ofJson_of_writes hWrites hAfter]
    rfl

/-- A file with the JSON of settings states what is written of them. -/
theorem says_of_compact {s : Settings} (hPath : isYamlPath path = false)
    (hFile : files.readOctets path = .ok (Utf8.encode s.toJson.compact)) :
    Says files (some path) s.stated := by
  refine .json hPath hFile (List.append_nil _).symm ?_ Json.blanks_nil
  rw [toJson_stated]
  exact Json.writes_compact s.toJson

theorem says_of_pretty {s : Settings} (hPath : isYamlPath path = false)
    (hFile : files.readOctets path = .ok (Utf8.encode s.toJson.pretty)) :
    Says files (some path) s.stated := by
  refine .json hPath hFile (List.append_nil _).symm ?_ Json.blanks_nil
  rw [toJson_stated]
  exact Json.writes_pretty s.toJson

/-! ## Layers -/

/-- The settings of a run, each from its own sources. -/
def layered (x : Stated) (environment : Option String) (o : Options) : Settings where
  extractor :=
    (o.extractor.or ((environment.filter (· ≠ "")).or x.extractor)).getD "castxml"
  extraArgs := x.extraArgs.getD []
  timeoutSecs := o.timeoutSecs.or x.timeoutSecs
  scratchDir := o.scratchDir.or x.scratchDir

theorem withEnvironment_extractor (s : Settings) (environment : Option String) :
    s.withEnvironment environment =
      { s with extractor := (environment.filter (· ≠ "")).getD s.extractor } := by
  cases environment with
  | none => rfl
  | some program =>
    by_cases hEmpty : program = ""
    · subst hEmpty
      rfl
    · have hKept : program.isEmpty = false := by simpa using hEmpty
      have hFilter : (some program).filter (fun program => decide (program ≠ "")) = some program :=
        Option.filter_some_pos (decide_eq_true hEmpty)
      simp only [withEnvironment, hKept, Bool.false_eq_true, if_false, hFilter, Option.getD_some]

theorem withOptions_withEnvironment (x : Stated) (environment : Option String) (o : Options) :
    (x.settings.withEnvironment environment).withOptions o = layered x environment o := by
  have hExtractor (a b c : Option String) :
      a.getD (b.getD (c.getD "castxml")) = (a.or (b.or c)).getD "castxml" := by
    cases a <;> cases b <;> rfl
  rw [withEnvironment_extractor, withOptions, layered, ← hExtractor]
  rfl

theorem resolve_of_stated {x : Stated} {environment : Option String} {o : Options}
    (h : Says files o.file x) : resolve files environment o = .ok (layered x environment o) := by
  rw [← withOptions_withEnvironment, resolve]
  generalize o.file = file at h ⊢
  cases file with
  | none =>
    cases h
    rfl
  | some path =>
    simp only [load_of_stated h]
    rfl

theorem resolve_of_load_error {e : FileError} (h : load files path = .error e)
    (environment : Option String) {o : Options} (hFile : o.file = some path) :
    resolve files environment o = .error e := by
  simp only [resolve, hFile, h]
  rfl

end Settings

namespace CommandLine

open Settings (Says layered)
open Verification (decodeReply)

/-- A search whose stub is stored runs the extractor once, on that stub. -/
theorem extracted_run_invocation {s : Surroundings} {l : Library} {o : Settings.Options}
    {settings : Settings} {files stored : Host.Files} {file : Scratch.File}
    (hSettings : Settings.resolve files s.extractor o = .ok settings)
    (hStored : ((s.services settings).store l).run files = (.given file, stored)) :
    (extracted s l o).run files =
      let replied := ((s.services settings).extract ⟨settings.extractor,
        settings.extraArgs ++ ["--castxml-output=1", "-o", "-"] ++ [file.text]⟩).run stored
      (declared l (decodeReply replied.1),
        (((s.services settings).discard file).run replied.2).2) := by
  rw [extracted_run hSettings, Verification.declarations_run, hStored]
  rfl

/-- Settings come back from their JSON in a file. What a file states, what the environment names
and what the options say are settled for every setting by itself, and the extractor is run with what
comes out. A file that cannot be loaded is not made up for by the other sources. -/
theorem settings_by_layers :
    (∀ (files : Host.Files) (path : String) (c : Settings), Settings.isYamlPath path = false →
      files.readOctets path = .ok (Utf8.encode c.toJson.compact) ∨
        files.readOctets path = .ok (Utf8.encode c.toJson.pretty) →
      Settings.load files path = .ok c ∧ Says files (some path) c.stated) ∧
    (∀ (files : Host.Files) (environment : Option String) (o : Settings.Options)
        (x : Settings.Stated), Says files o.file x →
      ∃ settings, Settings.resolve files environment o = .ok settings ∧
        settings.extractor =
          (o.extractor.or ((environment.filter (· ≠ "")).or x.extractor)).getD "castxml" ∧
        settings.timeoutSecs = o.timeoutSecs.or x.timeoutSecs ∧
        settings.scratchDir = o.scratchDir.or x.scratchDir ∧
        settings.extraArgs = x.extraArgs.getD [] ∧
        ∀ (s : Surroundings) (l : Library) (file : Scratch.File) (stored : Host.Files),
          s.extractor = environment →
          ((s.services settings).store l).run files = (.given file, stored) →
          let replied := ((s.services settings).extract ⟨settings.extractor,
            settings.extraArgs ++ ["--castxml-output=1", "-o", "-"] ++ [file.text]⟩).run stored
          (extracted s l o).run files = (declared l (decodeReply replied.1),
            (((s.services settings).discard file).run replied.2).2)) ∧
    (∀ (files files' : Host.Files) (environment environment' : Option String)
        (o o' : Settings.Options) (x x' : Settings.Stated) (settings settings' : Settings),
      Says files o.file x → Says files' o'.file x' →
      Settings.resolve files environment o = .ok settings →
      Settings.resolve files' environment' o' = .ok settings' →
        (o.extractor = o'.extractor → environment = environment' → x.extractor = x'.extractor →
          settings.extractor = settings'.extractor) ∧
        (o.timeoutSecs = o'.timeoutSecs → x.timeoutSecs = x'.timeoutSecs →
          settings.timeoutSecs = settings'.timeoutSecs) ∧
        (o.scratchDir = o'.scratchDir → x.scratchDir = x'.scratchDir →
          settings.scratchDir = settings'.scratchDir) ∧
        (x.extraArgs = x'.extraArgs → settings.extraArgs = settings'.extraArgs)) ∧
    ∀ (files : Host.Files) (path : String) (e : Settings.FileError),
      Settings.load files path = .error e → ∀ (environment : Option String) (o : Settings.Options),
        o.file = some path → Settings.resolve files environment o = .error e := by
  refine ⟨?_, ?_, ?_, ?_⟩
  · intro files path c hPath hFile
    have hSays : Says files (some path) c.stated := by
      rcases hFile with hFile | hFile
      · exact Settings.says_of_compact hPath hFile
      · exact Settings.says_of_pretty hPath hFile
    refine ⟨?_, hSays⟩
    rw [Settings.load_of_stated hSays, Settings.settings_stated]
  · intro files environment o x hSays
    refine ⟨layered x environment o, Settings.resolve_of_stated hSays, rfl, rfl, rfl, rfl, ?_⟩
    rintro s l file stored rfl hStored
    exact extracted_run_invocation (Settings.resolve_of_stated hSays) hStored
  · intro files files' environment environment' o o' x x' settings settings' hSays hSays' h h'
    obtain rfl := Except.ok.inj ((Settings.resolve_of_stated hSays).symm.trans h)
    obtain rfl := Except.ok.inj ((Settings.resolve_of_stated hSays').symm.trans h')
    refine ⟨?_, ?_, ?_, ?_⟩
    · intro hOption hEnvironment hFile
      simp only [layered, hOption, hEnvironment, hFile]
    · intro hOption hFile
      simp only [layered, hOption, hFile]
    · intro hOption hFile
      simp only [layered, hOption, hFile]
    · intro hFile
      simp only [layered, hFile]
  · exact fun files path e hLoad environment o => Settings.resolve_of_load_error hLoad environment

/-! ## Settings from all sources -/

/-- Settings with a limit of five seconds. -/
def writtenSettings : Settings where
  extractor := "/opt/castxml"
  extraArgs := ["-I/opt/include"]
  timeoutSecs := some 5

def layeredFiles : Host.Files where
  nodes := [([], .directory),
    (["settings.json"], .file (Utf8.encode writtenSettings.toJson.pretty) false),
    (["broken.json"], .file (Utf8.encode "not-json") false)]
  working := []

def layeredOptions : Settings.Options where
  file := some "/settings.json"
  extractor := some "/usr/bin/castxml"
  scratchDir := some "/var/tmp"

/-- Surroundings in which the extractor says how it was called, and fails. -/
def repeatingSurroundings : Surroundings where
  extractor := some "clang"
  services _ := {
    store _ := pure (.given ⟨"/tmp/stub.c", ["tmp", "stub.c"]⟩)
    extract i := pure (.failed (.failed i.program (.exited 1) i.text))
    discard _ := pure () }

/-- The option comes before the environment, and without it only the program is another one. The
arguments are those of the file, and nothing helps against a file that is no JSON. -/
theorem settings_by_layers_written :
    Settings.load layeredFiles "/settings.json" = .ok writtenSettings ∧
    (∃ settings settings',
      Settings.resolve layeredFiles (some "clang") layeredOptions = .ok settings ∧
      settings.extractor = "/usr/bin/castxml" ∧ settings.timeoutSecs = some 5 ∧
      settings.scratchDir = some "/var/tmp" ∧ settings.extraArgs = ["-I/opt/include"] ∧
      Settings.resolve layeredFiles (some "clang") { layeredOptions with extractor := none } =
        .ok settings' ∧
      settings'.extractor = "clang" ∧ settings.timeoutSecs = settings'.timeoutSecs) ∧
    ((extracted repeatingSurroundings .rados layeredOptions).run layeredFiles).1 =
      .error (.extraction .rados (.extractor (.failed "/usr/bin/castxml" (.exited 1)
        "/usr/bin/castxml -I/opt/include --castxml-output=1 -o - /tmp/stub.c"))) ∧
    ∃ e, Settings.resolve layeredFiles none { layeredOptions with file := some "/broken.json" } =
      .error e := by
  obtain ⟨hWritten, hLayers, hApart, hFails⟩ := settings_by_layers
  obtain ⟨hLoad, hSays⟩ := hWritten layeredFiles "/settings.json" writtenSettings
    (by decide +kernel) (.inr (by decide +kernel))
  obtain ⟨settings, hResolve, hExtractor, hTimeout, hScratch, hArgs, hRun⟩ :=
    hLayers layeredFiles (some "clang") layeredOptions _ hSays
  obtain ⟨settings', hResolve', hExtractor', -⟩ :=
    hLayers layeredFiles (some "clang") { layeredOptions with extractor := none } _ hSays
  obtain ⟨-, hSame, -⟩ := hApart _ _ _ _ _ _ _ _ _ _ hSays hSays hResolve hResolve'
  have hBroken : Settings.load layeredFiles "/broken.json" =
      .error (.json "/broken.json" ⟨.expectedWord, 1, 2⟩) := by decide +kernel
  refine ⟨hLoad, ⟨settings, settings', hResolve, hExtractor, hTimeout, hScratch, hArgs, hResolve',
    hExtractor', hSame rfl rfl⟩, ?_, _, hFails _ _ _ hBroken none _ rfl⟩
  have hServices : repeatingSurroundings.services settings =
    repeatingSurroundings.services Settings.default := rfl
  rw [hRun repeatingSurroundings .rados ⟨"/tmp/stub.c", ["tmp", "stub.c"]⟩ layeredFiles rfl rfl,
    hServices, hExtractor, hArgs]
  decide +kernel

end CommandLine

end BindingCoverage
