import BindingCoverage.Info.Shape

/-!
# Query parameters

The parameters of a record are its top-level fields that are texts, booleans or numbers, with
rising keys. A record that is no map has none.
-/

namespace BindingCoverage.Info

/-- The parameter that a value becomes, if it is a scalar. -/
def scalar? : Json → Option String
  | .string s => some s
  | .bool b => some (if b then "true" else "false")
  | .number n => some n.text
  | .null | .array _ | .object _ => none

def paramsOfJson : Json → List (String × String)
  | .object fields => fields.filterMap fun (k, v) => (scalar? v).map (k, ·)
  | _ => []

def params (record : Shape) : Except ShapeError (List (String × String)) :=
  paramsOfJson <$> record.toJson

end BindingCoverage.Info
