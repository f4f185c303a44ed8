import BindingCoverage.Declaration.Set
import BindingCoverage.Json.Decoder
import BindingCoverage.Json.Printer

/-!
# Declarations as JSON

A declaration is an object; what is absent or empty has no field. Only the name is needed to read
one. A set is an array, and reading one takes its items as they are.
-/

namespace BindingCoverage

/-- A field for a value that is there. -/
def Json.optionalField (key : String) (value : Option Json) : List (String × Json) :=
  match value with
  | some v => [(key, v)]
  | none => []

namespace Parameter

def toJson (p : Parameter) : Json :=
  .object (
    Json.optionalField "name" (p.name.map .string) ++
    Json.optionalField "type_id" (p.typeId.map .string))

def record : Json.Record Parameter where
  name := "struct CArgument"
  initial := {}
  fields := [
    ⟨"name", false, fun p depth c => do
      let (v, c) ← Json.Decoder.option (Json.Decoder.string "a string") depth c
      return ({ p with name := v }, c)⟩,
    ⟨"type_id", false, fun p depth c => do
      let (v, c) ← Json.Decoder.option (Json.Decoder.string "a string") depth c
      return ({ p with typeId := v }, c)⟩]

end Parameter

namespace Declaration

def toJson (d : Declaration) : Json :=
  .object (
    [("name", .string d.name)] ++
    Json.optionalField "id" (d.id.map .string) ++
    Json.optionalField "returns" (d.returns.map .string) ++
    (if d.parameters.isEmpty then [] else [("arguments", .array (d.parameters.map (·.toJson)))]) ++
    [("variadic", .bool d.variadic), ("is_extern", .bool d.isExtern),
      ("is_inline", .bool d.isInline), ("is_static", .bool d.isStatic)] ++
    Json.optionalField "file" (d.file.map .string) ++
    Json.optionalField "line" (d.line.map fun n => .number (.natural n.toNat)))

/-- A field that is text or absent. -/
def textField (key : String) (set : Declaration → Option String → Declaration) :
    Json.Field Declaration :=
  ⟨key, false, fun d depth c => do
    let (v, c) ← Json.Decoder.option (Json.Decoder.string "a string") depth c
    return (set d v, c)⟩

def flagField (key : String) (set : Declaration → Bool → Declaration) : Json.Field Declaration :=
  ⟨key, false, fun d depth c => do
    let (v, c) ← Json.Decoder.bool depth c
    return (set d v, c)⟩

def record : Json.Record Declaration where
  name := "struct CFunction"
  initial := named ""
  fields := [
    ⟨"name", true, fun d depth c => do
      let (v, c) ← Json.Decoder.string "a string" depth c
      return ({ d with name := v }, c)⟩,
    textField "id" fun d v => { d with id := v },
    textField "returns" fun d v => { d with returns := v },
    ⟨"arguments", false, fun d depth c => do
      let (v, c) ← Json.Decoder.list Parameter.record.decoder depth c
      return ({ d with parameters := v }, c)⟩,
    flagField "variadic" fun d v => { d with variadic := v },
    flagField "is_extern" fun d v => { d with isExtern := v },
    flagField "is_inline" fun d v => { d with isInline := v },
    flagField "is_static" fun d v => { d with isStatic := v },
    textField "file" fun d v => { d with file := v },
    ⟨"line", false, fun d depth c => do
      let (v, c) ← Json.Decoder.option Json.Decoder.u32 depth c
      return ({ d with line := v }, c)⟩]

/-- Reads an array of declarations. -/
def listOfJson (text : List UInt8) : Except Json.Error (List Declaration) :=
  Json.Decoder.run (Json.Decoder.list record.decoder) text

end Declaration

namespace DeclarationSet

def toJson (s : DeclarationSet) : Json := .array (s.declarations.map (·.toJson))

/-- Reads a set as it was written; names are not looked at. -/
def ofJson (text : List UInt8) : Except Json.Error DeclarationSet :=
  DeclarationSet.mk <$> Declaration.listOfJson text

end DeclarationSet

end BindingCoverage
