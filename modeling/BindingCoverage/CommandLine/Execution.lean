import BindingCoverage.CommandLine.Arguments
import BindingCoverage.CommandLine.Failure
import BindingCoverage.CommandLine.Text
import BindingCoverage.Dump.File
import BindingCoverage.SymbolList
import BindingCoverage.Verification.Host

/-!
# Carrying out commands

A command reads files and may run the extractor; it prints and ends with a status. Nothing is
printed by a command that fails, except that a check which is to fail when functions are missing
prints its report first.
-/

namespace BindingCoverage.CommandLine

/-- What commands find outside. -/
structure Surroundings where
  /-- The extractor that the environment names. -/
  extractor : Option String := none
  /-- What is done to scratch files and extractors under given settings. -/
  services : Settings → Verification.Services Host.Files

/-- A host on which the runner of the extractor keeps to a schedule. -/
def Surroundings.onHost (schedule : Extractor.Schedule) (extractor : Option String) :
    Surroundings where
  extractor := extractor
  services := Verification.onHost schedule

def libraryOf (key : String) : Except Failure Library :=
  (Library.ofKey key).mapError .unknownLibrary

/-- The declarations that the extractor finds for a library. -/
def extracted (s : Surroundings) (l : Library) (o : Settings.Options) :
    ExceptT Failure (StateM Host.Files) DeclarationSet := do
  match Settings.resolve (← get) s.extractor o with
  | .error e => throw (.settings (o.file.getD "") e)
  | .ok settings =>
    match ← ((Verification.declarations (s.services settings) settings l).run :
        StateM Host.Files (Verification.Answer Verification.Error DeclarationSet)) with
    | .given found => return found
    | .failed e => throw (.extraction l e)
    | .brokenOff => throw .brokenOff

/-- The declarations in a saved dump. -/
def saved (files : Host.Files) (path : String) : Except Failure DeclarationSet :=
  (Dump.decodeFile files path).mapError (.dump path)

/-- Reads a symbol list from a file. -/
def symbolsIn (files : Host.Files) (path : String) : Except Failure (List String) :=
  match files.readText path with
  | .ok text => .ok (SymbolList.symbols text)
  | .error e => .error (.symbols path e)

/-- The report on the expected declarations of a library. -/
def reportOn (l : Library) (expected : DeclarationSet) (implemented : List String) :
    Except Failure CoverageReport := do
  let registry ← (Registry.empty.register l.symbolPrefix expected).mapError .registry
  match registry.report? l.symbolPrefix implemented with
  | some report => return report
  | none => throw (.unrecorded l.symbolPrefix)

/-- Compares a binding with its library. -/
def check (s : Surroundings) (r : CheckRequest) :
    ExceptT Failure (StateM Host.Files) CoverageReport := do
  let l ← libraryOf r.library
  let expected ←
    match r.dump with
    | some path => do saved (← get) path
    | none => extracted s l r.options
  let implemented ← symbolsIn (← get) r.implemented
  reportOn l expected implemented

/-! ## The program -/

/-- How the program ends, and what it printed. -/
structure Outcome where
  status : Nat
  stdout : String := ""
  stderr : String := ""
  deriving DecidableEq, Repr

namespace Outcome

def success (stdout : String) : Outcome := ⟨0, stdout, ""⟩

def failure (stdout : String) (e : Failure) : Outcome := ⟨1, stdout, chainText e.chain⟩

/-- The program breaks off where a run of the extractor does. -/
def brokenOff : Outcome := ⟨101, "", String.join (Failure.brokenOff.chain.map line)⟩

end Outcome

def declarationsOutput (json : Bool) (s : DeclarationSet) : String :=
  if json then line s.toJson.pretty else declarationsText s

def reportOutput (json : Bool) (r : CoverageReport) : String :=
  if json then line r.toJson.pretty else reportText r

/-- A report as the outcome of a check. -/
def reportOutcome (failOnMissing json : Bool) (r : CoverageReport) : Outcome :=
  if failOnMissing && !r.isComplete then
    .failure (reportOutput json r) (.incomplete r.missing.length r.symbolPrefix)
  else .success (reportOutput json r)

def outcomeOf {α : Type} (print : α → Outcome) : Except Failure α → Outcome
  | .ok a => print a
  | .error .brokenOff => .brokenOff
  | .error e => .failure "" e

/-- Carries out a command. -/
def execute (s : Surroundings) : Command → StateM Host.Files Outcome
  | .libraries json =>
    return .success (if json then line librariesJson.pretty else librariesText)
  | .stub key => return outcomeOf (fun l => .success l.stub) (libraryOf key)
  | .extract key options json => do
    let found ← (do extracted s (← libraryOf key) options :
      ExceptT Failure (StateM Host.Files) DeclarationSet).run
    return outcomeOf (fun d => .success (declarationsOutput json d)) found
  | .parse file json => do
    return outcomeOf (fun d => .success (declarationsOutput json d)) (saved (← get) file)
  | .check request failOnMissing json => do
    return outcomeOf (reportOutcome failOnMissing json) (← (check s request).run)

def version : String := "0.1.0"

def usage : String :=
  String.join ([
    "Check binding coverage of native C APIs",
    "",
    "Usage: symcheck [--verbose] COMMAND",
    "",
    "  libraries [--json]",
    "  stub --library KEY",
    "  extract --library KEY [EXTRACTOR] [--json]",
    "  parse --file PATH [--json]",
    "  check --library KEY --implemented PATH [--xml PATH] [EXTRACTOR]",
    "        [--fail-on-missing] [--json]",
    "",
    "  EXTRACTOR: [--config PATH] [--castxml PROGRAM] [--timeout-secs N] [--scratch-dir PATH]"
    ].map line)

/-- Runs the program with its arguments. -/
def run (s : Surroundings) (args : List String) : StateM Host.Files Outcome :=
  match Command.ofArguments args with
  | .ok command => execute s command
  | .error .help => return .success usage
  | .error .version => return .success (line ("symcheck " ++ version))
  | .error (.usage e) => return ⟨2, "", s!"error: {e.message}\n\n{usage}"⟩

end BindingCoverage.CommandLine
