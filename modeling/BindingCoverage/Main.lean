import BindingCoverage.CommandLine.Execution

/-!
# The program

Reads the files that the arguments name, runs the command on them, prints what it prints and ends
with its status. An extractor is run only if it is a script.
-/

namespace BindingCoverage.Main

/-- Where a path text leads from the working directory. -/
def placeOf (files : Host.Files) (path : String) : Host.Path :=
  let names := (Host.pathNames path).filter (· != ".")
  if path.startsWith "/" then names else files.working ++ names

/-- Adds what a path names, if it can be read. -/
def load (files : Host.Files) (path : String) : IO Host.Files := do
  let place := placeOf files path
  if (files.get? place).isSome then return files
  try
    let octets ← IO.FS.readBinFile path
    return files.add place (.file octets.toList true)
  catch
    | .inappropriateType .. => return files.add place .directory
    | _ => return files

/-- The paths that a command may read. -/
def pathsOf (extractor : Option String) (options : Settings.Options) : List String :=
  options.file.toList ++ options.extractor.toList ++ options.scratchDir.toList ++ extractor.toList

def pathsOfCommand (extractor : Option String) : CommandLine.Command → List String
  | .libraries _ | .stub _ => []
  | .extract _ options _ => pathsOf extractor options
  | .parse file _ => [file]
  | .check request _ _ =>
    request.implemented :: request.dump.toList ++ pathsOf extractor request.options

/-- The program that the settings file names, which has to be read as well. -/
def extractorIn (files : Host.Files) (options : Settings.Options) : List String :=
  match Settings.resolve files none options with
  | .ok settings => [settings.extractor]
  | .error _ => []

def optionsOfCommand : CommandLine.Command → Settings.Options
  | .extract _ options _ => options
  | .check request _ _ => request.options
  | _ => {}

end BindingCoverage.Main

open BindingCoverage in
def main (args : List String) : IO UInt32 := do
  let extractor ← IO.getEnv Settings.extractorVariable
  let mut files := Host.Files.initial
  match CommandLine.Command.ofArguments args with
  | .ok command =>
    for path in Main.pathsOfCommand extractor command do
      files ← Main.load files path
    for path in Main.extractorIn files (Main.optionsOfCommand command) do
      files ← Main.load files path
  | .error _ => pure ()
  let surroundings := CommandLine.Surroundings.onHost { start := ⟨0, 0⟩ } extractor
  let (outcome, _) := CommandLine.run surroundings args files
  (← IO.getStdout).putStr outcome.stdout
  (← IO.getStderr).putStr outcome.stderr
  return UInt32.ofNat outcome.status
