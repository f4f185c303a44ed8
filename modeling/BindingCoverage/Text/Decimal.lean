/-!
# Decimal numbers

Whole numbers as they stand in texts: ASCII digits, at least one, and in some places a sign.
-/

namespace BindingCoverage.Text

/-- The number that a list of digits writes; the empty list writes zero. -/
def digitsValue (digits : List Char) : Nat :=
  digits.foldl (fun n d => n * 10 + (d.toNat - '0'.toNat)) 0

def natural? (digits : List Char) : Option Nat :=
  if digits.isEmpty || !digits.all Char.isDigit then none else some (digitsValue digits)

/-- A number of at most so many bits, with or without a plus sign. -/
def unsigned? (bits : Nat) (text : String) : Option Nat :=
  let digits :=
    match text.toList with
    | '+' :: digits => digits
    | digits => digits
  match natural? digits with
  | some n => if n < Nat.pow 2 bits then some n else none
  | none => none

end BindingCoverage.Text
