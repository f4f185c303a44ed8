import BindingCoverage.Number.Shortest
import BindingCoverage.Text.Sorted

/-!
# JSON values

* `Json`: values whose objects are lists of fields in the order they are written.
* `Json.Number`: whole numbers of 64 bits are kept exactly, all others are binary64.
-/

namespace BindingCoverage

/-- A JSON number. A whole number from `-2 ^ 63` up to `2 ^ 64 - 1` is `natural` or `negative`;
`negative n` stands for `-n`, with `n ≠ 0`. -/
inductive Json.Number where
  | natural (n : Nat)
  | negative (n : Nat)
  | double (x : Binary64)
  deriving DecidableEq, Repr

inductive Json where
  | null
  | bool (b : Bool)
  | number (n : Json.Number)
  | string (s : String)
  | array (items : List Json)
  | object (fields : List (String × Json))
  deriving Repr

namespace Json

/-- Doubles are written with as few digits as read back. The point stays in its place from the
fourth zero after it up to the sixteenth digit before it; outside that range there is an exponent,
always with its sign. -/
def numberLayout : DecimalLayout where
  greatestPoint := 16
  leastPoint := -4
  keepFraction := true
  exponentMark := "e"
  signPositive := true

def Number.text : Number → String
  | .natural n => toString n
  | .negative n => "-" ++ toString n
  | .double x => numberLayout.write x

/-- The value of a field; `null` stands for no object and for no such field. -/
def field? (key : String) : Json → Option Json
  | .object fields => Text.Sorted.get? key fields
  | _ => none

end Json

end BindingCoverage
