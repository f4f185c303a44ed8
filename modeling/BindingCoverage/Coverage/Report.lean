import BindingCoverage.Declaration.Json

/-!
# Coverage reports

A report compares the functions that a library is expected to have with the functions that a
binding implements, for the functions whose names begin with the library's symbol prefix.
-/

namespace BindingCoverage

structure CoverageReport where
  symbolPrefix : String
  /-- Expected and implemented, in the order of the declarations. -/
  found : List String
  /-- Expected and not implemented, in the order of the declarations. -/
  missing : List String
  /-- Implemented and not expected, in rising order. -/
  unexpected : List String
  deriving DecidableEq, Repr

namespace CoverageReport

def expectedCount (r : CoverageReport) : Nat := r.found.length + r.missing.length

def isComplete (r : CoverageReport) : Bool := r.missing.isEmpty

/-- Compares the expected set with the implemented names. -/
def compare (symbolPrefix : String) (expected : DeclarationSet) (implemented : List String) :
    CoverageReport :=
  let names := (expected.withPrefix symbolPrefix).map (·.name)
  { symbolPrefix
    found := names.filter (implemented.contains ·)
    missing := names.filter (!implemented.contains ·)
    unexpected := (Text.Sorted.unique implemented).filter fun name =>
      Text.startsWith name symbolPrefix && !expected.contains name }

def toJson (r : CoverageReport) : Json :=
  .object [
    ("prefix", .string r.symbolPrefix),
    ("found", .array (r.found.map .string)),
    ("missing", .array (r.missing.map .string)),
    ("unexpected", .array (r.unexpected.map .string))]

/-- A field that is a list of names. -/
def namesField (key : String) (set : CoverageReport → List String → CoverageReport) :
    Json.Field CoverageReport :=
  ⟨key, true, fun r depth c => do
    let (v, c) ← Json.Decoder.list (Json.Decoder.string "a string") depth c
    return (set r v, c)⟩

def record : Json.Record CoverageReport where
  name := "struct CoverageReport"
  initial := ⟨"", [], [], []⟩
  fields := [
    ⟨"prefix", true, fun r depth c => do
      let (v, c) ← Json.Decoder.string "a string" depth c
      return ({ r with symbolPrefix := v }, c)⟩,
    namesField "found" fun r v => { r with found := v },
    namesField "missing" fun r v => { r with missing := v },
    namesField "unexpected" fun r v => { r with unexpected := v }]

def ofJson (text : List UInt8) : Except Json.Error CoverageReport :=
  Json.Decoder.run record.decoder text

end CoverageReport

end BindingCoverage
