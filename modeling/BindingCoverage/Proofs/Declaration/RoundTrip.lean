import BindingCoverage.Proofs.Json.Layout
import BindingCoverage.Proofs.Json.Record

/-!
# Reading declarations that were written

Every layout of the JSON of a declaration is read as that declaration: what is absent or empty has
no field, and is absent or empty again when it is read.

* `Parameter.takes`, `Declaration.takes`: one parameter, one declaration.
* `DeclarationSet.ofJson_of_writes`: a set, with blanks after it.
-/

namespace BindingCoverage

open Json (Assigns Takes Writes Blanks Record takes_string takes_bool takes_u32)

namespace Parameter

theorem takes (depth : Nat) (p : Parameter) : Takes record.decoder (depth + 2) p.toJson p := by
  refine Record.takes (by decide) ?_
  rw [← List.append_nil (Json.optionalField "type_id" _)]
  refine .optional (fun (p : Parameter) v => { p with name := v }) (takes_string _ _) (by rfl) ?_
  exact .optional (fun (p : Parameter) v => { p with typeId := v }) (takes_string _ _) (by rfl) .nil

end Parameter

namespace Declaration

theorem takes_flag (key : String) (set : Declaration → Bool → Declaration) (value : Declaration)
    (depth : Nat) (b : Bool) :
    Takes ((flagField key set).read value) depth (.bool b) (set value b) :=
  (takes_bool depth b).map (set value)

theorem takes (depth : Nat) (d : Declaration) : Takes record.decoder (depth + 4) d.toJson d := by
  refine Record.takes (by decide) ?_
  rw [← List.append_nil (Json.optionalField "line" _)]
  simp only [List.append_assoc]
  refine .take ((takes_string "a string" _ d.name).map named) ?_
  refine .optional (fun (d : Declaration) v => { d with id := v }) (takes_string _ _) (by rfl) ?_
  refine .optional (fun (d : Declaration) v => { d with returns := v }) (takes_string _ _)
    (by rfl) ?_
  refine .list (fun (d : Declaration) v => { d with parameters := v }) (Parameter.takes depth)
    (by rfl) ?_
  refine .take (takes_flag _ _ _ _ _) (.take (takes_flag _ _ _ _ _) ?_)
  refine .take (takes_flag _ _ _ _ _) (.take (takes_flag _ _ _ _ _) ?_)
  refine .optional (fun (d : Declaration) v => { d with file := v }) (takes_string _ _) (by rfl) ?_
  exact .optional (fun (d : Declaration) v => { d with line := v }) (takes_u32 _) (by rfl) .nil

end Declaration

/-- Every way to write a set is read as that set. -/
theorem DeclarationSet.ofJson_of_writes {s : DeclarationSet} {text after : List UInt8}
    (h : Writes s.toJson text) (hAfter : Blanks after) : ofJson (text ++ after) = .ok s := by
  have hList : Takes (Json.Decoder.list Declaration.record.decoder) Json.depthLimit s.toJson
      s.declarations :=
    Json.takes_list_map (Declaration.takes 123) s.declarations
  rw [ofJson, Declaration.listOfJson, Json.Decoder.run_takes hList h hAfter]
  rfl

end BindingCoverage
