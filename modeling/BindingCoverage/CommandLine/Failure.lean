import BindingCoverage.Verification.Basic
import BindingCoverage.Settings.File

/-!
# Failures of commands

What a command was doing when it failed, with the causes below it, and the text in which both are
shown: the failure on the first line, then its causes. Several causes are numbered, and lines that
continue a cause are indented like its first one.
-/

namespace BindingCoverage.CommandLine

inductive Failure where
  | unknownLibrary (e : UnknownLibrary)
  | settings (path : String) (e : Settings.FileError)
  | extraction (l : Library) (e : Verification.Error)
  /-- The run of the extractor broke off, and the command with it. -/
  | brokenOff
  | dump (path : String) (e : Dump.Error)
  | symbols (path : String) (e : Host.SystemError)
  | registry (e : EmptyPrefix)
  | unrecorded (symbolPrefix : String)
  | incomplete (missing : Nat) (symbolPrefix : String)
  deriving DecidableEq, Repr

namespace Failure

/-- The keys of all libraries. -/
def supported : String := String.intercalate ", " (Library.all.map (·.key))

/-- The messages of a failure and of its causes, outermost first. -/
def chain : Failure → List String
  | .unknownLibrary e => [s!"{e.message} (supported: {supported})"]
  | .settings path e => s!"Failed to load config: {path}" :: e.message :: e.causes
  | .extraction l e => s!"Failed to extract C functions for {l.key}" :: e.message :: e.causes
  | .brokenOff => ["the run of the extractor broke off"]
  | .dump path e => s!"Failed to decode AST dump: {path}" :: e.message :: e.causes
  | .symbols path e => [s!"Failed to read symbol list: {path}", e.message]
  | .registry e => [e.message]
  | .unrecorded symbolPrefix => [s!"No expected functions recorded for {symbolPrefix}"]
  | .incomplete missing symbolPrefix =>
    [s!"{missing} expected function(s) missing for {symbolPrefix}"]

end Failure

/-! ## The text of a chain -/

/-- A text in which every line but the first is indented. -/
def indentLines (width : Nat) (text : String) : String :=
  String.intercalate ("\n" ++ String.ofList (List.replicate width ' '))
    (text.splitOn "\n")

/-- A number at the right of five columns. -/
def causeNumber (n : Nat) : String :=
  let digits := (toString n).toList
  String.ofList (List.replicate (5 - digits.length) ' ' ++ digits)

def numberedCause (cause : String × Nat) : String :=
  causeNumber cause.2 ++ ": " ++ indentLines 7 cause.1 ++ "\n"

def causesText : List String → String
  | [] => ""
  | [cause] => "\nCaused by:\n    " ++ indentLines 4 cause ++ "\n"
  | causes => "\nCaused by:\n" ++ String.join (causes.zipIdx.map numberedCause)

def chainText : List String → String
  | [] => ""
  | message :: causes => "Error: " ++ message ++ "\n" ++ causesText causes

end BindingCoverage.CommandLine
