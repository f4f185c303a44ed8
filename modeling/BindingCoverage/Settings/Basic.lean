import BindingCoverage.Declaration.Json

/-!
# Settings

How the extractor is to be run. Every setting has a default, and settings that are absent or empty
are not written.
-/

namespace BindingCoverage

structure Settings where
  /-- The program; a name without a slash is searched for. -/
  extractor : String := "castxml"
  /-- Arguments before the fixed ones. -/
  extraArgs : List String := []
  /-- The time limit; without one the extractor may take as long as it likes. -/
  timeoutSecs : Option UInt64 := none
  /-- Where stubs are written; by default the system's directory for temporary files. -/
  scratchDir : Option String := none
  deriving DecidableEq, Repr

namespace Settings

def default : Settings := {}

def toJson (s : Settings) : Json :=
  .object (
    [("extractor_bin", .string s.extractor)] ++
    (if s.extraArgs.isEmpty then [] else [("extra_args", .array (s.extraArgs.map .string))]) ++
    Json.optionalField "timeout_secs" (s.timeoutSecs.map fun n => .number (.natural n.toNat)) ++
    Json.optionalField "scratch_dir" (s.scratchDir.map .string))

def record : Json.Record Settings where
  name := "struct VerifierConfig"
  initial := default
  fields := [
    ⟨"extractor_bin", false, fun s depth c => do
      let (v, c) ← Json.Decoder.string "path string" depth c
      return ({ s with extractor := v }, c)⟩,
    ⟨"extra_args", false, fun s depth c => do
      let (v, c) ← Json.Decoder.list (Json.Decoder.string "a string") depth c
      return ({ s with extraArgs := v }, c)⟩,
    ⟨"timeout_secs", false, fun s depth c => do
      let (v, c) ← Json.Decoder.option Json.Decoder.u64 depth c
      return ({ s with timeoutSecs := v }, c)⟩,
    ⟨"scratch_dir", false, fun s depth c => do
      let (v, c) ← Json.Decoder.option (Json.Decoder.string "path string") depth c
      return ({ s with scratchDir := v }, c)⟩]

def ofJson (text : List UInt8) : Except Json.Error Settings :=
  Json.Decoder.run record.decoder text

end Settings

end BindingCoverage
