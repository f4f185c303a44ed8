import BindingCoverage.Coverage.Report
import BindingCoverage.Library

/-!
# Output for people

The texts that commands print when they are not asked for JSON.
-/

namespace BindingCoverage.CommandLine

/-- A text with a line end. -/
def line (s : String) : String := s ++ "\n"

def declarationLine (d : Declaration) : String :=
  let more := if d.variadic then ", ..." else ""
  let start := s!"- {d.name} ({d.parameters.length} args{more})"
  match d.file, d.line with
  | some file, some n => line s!"{start} {file}:{n.toNat}"
  | _, _ => line start

def declarationsText (s : DeclarationSet) : String :=
  if s.isEmpty then line "Functions: (none)"
  else String.join (s.declarations.map declarationLine)

/-- Names under a title; nothing if there are none. -/
def namesText (title : String) (names : List String) : String :=
  if names.isEmpty then "" else line title ++ String.join (names.map fun n => line s!"  - {n}")

def reportText (r : CoverageReport) : String :=
  line s!"Coverage for {r.symbolPrefix}: {r.found.length}/{r.expectedCount} implemented" ++
  namesText "Missing:" r.missing ++
  namesText "Not in headers:" r.unexpected

def librariesText : String :=
  line "Libraries:" ++
  String.join (Library.all.map fun l => line s!"- {l.key} (prefix {l.symbolPrefix})")

def librariesJson : Json :=
  .array (Library.all.map fun l =>
    .object [("name", .string l.key), ("prefix", .string l.symbolPrefix)])

end BindingCoverage.CommandLine
