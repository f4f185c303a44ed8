import BindingCoverage.Json.Printer

/-!
# Records of any shape

A record as it describes itself, and the JSON value that it becomes. Keys may be texts, characters,
booleans and numbers. A number as a value need not be finite, but a whole number must be one that
64 bits can hold, with or without a sign. A number as a key must be finite, and may be any whole
number.

What describes itself in another way is one of these: a number of 32 bits is the same number as a
value and its own text as a key, a record with named fields is a map from texts, a case with nothing
in it is the text that names it, and a case with something in it is a map with that one key.
-/

namespace BindingCoverage.Info

inductive Shape where
  | integer (n : Int)
  /-- `none` stands for a number that is not finite. -/
  | double (x : Option Binary64)
  | bool (b : Bool)
  | char (c : Char)
  | text (s : String)
  | absent
  | present (v : Shape)
  | unit
  | list (items : List Shape)
  | map (entries : List (Shape × Shape))
  /-- A record that refuses to describe itself. -/
  | refusal (reason : String)
  deriving Inhabited, Repr

inductive ShapeError where
  | keyNotText
  | keyNotFinite
  | numberOutOfRange
  | refused (reason : String)
  deriving DecidableEq, Repr

def ShapeError.message : ShapeError → String
  | .keyNotText => "key must be a string"
  | .keyNotFinite => "float key must be finite (got NaN or +/-inf)"
  | .numberOutOfRange => "number out of range"
  | .refused reason => reason

namespace Shape

def numberOf (n : Int) : Json.Number :=
  if 0 ≤ n then .natural n.natAbs else .negative n.natAbs

/-- 64 bits can hold the number, with or without a sign. -/
def InRange (n : Int) : Prop := -(Nat.pow 2 63 : Int) ≤ n ∧ n < (Nat.pow 2 64 : Int)

instance (n : Int) : Decidable (InRange n) :=
  inferInstanceAs (Decidable (-(Nat.pow 2 63 : Int) ≤ n ∧ n < (Nat.pow 2 64 : Int)))

/-- The text of a key. -/
def key : Shape → Except ShapeError String
  | .integer n => .ok (numberOf n).text
  | .double (some x) => .ok (Json.Number.double x).text
  | .double none => .error .keyNotFinite
  | .bool b => .ok (if b then "true" else "false")
  | .char c => .ok (String.ofList [c])
  | .text s => .ok s
  | .refusal reason => .error (.refused reason)
  | .absent | .present _ | .unit | .list _ | .map _ => .error .keyNotText

mutual

/-- The value of a record. The fields of a map are sorted, and the last one of a key stays. -/
def toJson : Shape → Except ShapeError Json
  | .integer n => if InRange n then .ok (.number (numberOf n)) else .error .numberOutOfRange
  | .double (some x) => .ok (.number (.double x))
  | .double none | .absent | .unit => .ok .null
  | .bool b => .ok (.bool b)
  | .char c => .ok (.string (String.ofList [c]))
  | .text s => .ok (.string s)
  | .present v => toJson v
  | .list items => do return .array (← itemsToJson items)
  | .map entries => do return .object (← entriesToJson [] entries)
  | .refusal reason => .error (.refused reason)

def itemsToJson : List Shape → Except ShapeError (List Json)
  | [] => .ok []
  | v :: rest => do
    let v ← toJson v
    return v :: (← itemsToJson rest)

def entriesToJson (fields : List (String × Json)) :
    List (Shape × Shape) → Except ShapeError (List (String × Json))
  | [] => .ok fields
  | (k, v) :: rest => do
    let k ← key k
    let v ← toJson v
    entriesToJson (Text.Sorted.put k v fields) rest

end

end Shape

end BindingCoverage.Info
