import BindingCoverage.Host.Files
import BindingCoverage.Settings.Yaml

/-!
# Settings in files, and what overrides them

A file named `*.yaml` or `*.yml` holds YAML, any other file JSON. The environment overrides the
file, and options override both, each for its own setting only.
-/

namespace BindingCoverage.Settings

inductive FileError where
  | read (path : String) (e : Host.SystemError)
  | json (path : String) (e : Json.Error)
  | yaml (path : String)
  deriving DecidableEq, Repr

namespace FileError

def message : FileError → String
  | .read path e => s!"Failed to read config at {path}: {e.message}"
  | .json path e => s!"Failed to parse config JSON at {path}: {e.message}"
  | .yaml path => s!"Failed to parse config YAML at {path}"

def causes : FileError → List String
  | .read _ e => [e.message]
  | .json _ e => [e.message]
  | .yaml _ => []

end FileError

/-- What stands after the last point of a file's name, if anything stands before that point. -/
def extension? (path : String) : Option String :=
  match (Host.pathNames path).filter (· != ".") |>.getLast? with
  | none => none
  | some name =>
    if name = ".." then none
    else
      let reversed := name.toList.reverse
      match reversed.dropWhile (· != '.') with
      | [] | [_] => none
      | _ => some (String.ofList (reversed.takeWhile (· != '.')).reverse)

def isYamlPath (path : String) : Bool :=
  extension? path == some "yaml" || extension? path == some "yml"

/-- Reads the settings in a file. -/
def load (files : Host.Files) (path : String) : Except FileError Settings :=
  match files.readText path with
  | .error e => .error (.read path e)
  | .ok text =>
    if isYamlPath path then
      match ofYaml text with
      | some s => .ok s
      | none => .error (.yaml path)
    else (ofJson (Utf8.encode text)).mapError (.json path)

/-! ## Overriding -/

/-- The environment variable that names the extractor. -/
def extractorVariable : String := "CASTXML_BIN"

/-- The settings with the extractor of the environment, unless that is absent or empty. -/
def withEnvironment (s : Settings) (extractor : Option String) : Settings :=
  match extractor with
  | some program => if program.isEmpty then s else { s with extractor := program }
  | none => s

structure Options where
  /-- The file with the settings. -/
  file : Option String := none
  extractor : Option String := none
  timeoutSecs : Option UInt64 := none
  scratchDir : Option String := none
  deriving DecidableEq, Repr

def withOptions (s : Settings) (o : Options) : Settings where
  extractor := o.extractor.getD s.extractor
  extraArgs := s.extraArgs
  timeoutSecs := o.timeoutSecs.or s.timeoutSecs
  scratchDir := o.scratchDir.or s.scratchDir

/-- The settings of a run. -/
def resolve (files : Host.Files) (extractor : Option String) (o : Options) :
    Except FileError Settings := do
  let s ←
    match o.file with
    | some path => load files path
    | none => pure default
  return (s.withEnvironment extractor).withOptions o

end BindingCoverage.Settings
