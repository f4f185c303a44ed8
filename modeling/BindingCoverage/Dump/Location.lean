import BindingCoverage.Dump.Error
import BindingCoverage.Text.Decimal

/-!
# Source locations

The line of a function is in its `line` attribute, or after the last colon of its `location`
attribute, where the reference to its file stands before that colon.
-/

namespace BindingCoverage.Dump

/-- A line number: digits, with or without a plus sign, of at most 32 bits. -/
def line? (text : String) : Option UInt32 := (Text.unsigned? 32 text).map UInt32.ofNat

/-- What stands before and after the last colon. -/
def splitAtLastColon (text : String) : Option (String × String) :=
  let reversed := text.toList.reverse
  match reversed.dropWhile (· != ':') with
  | [] => none
  | _ :: before =>
    some (String.ofList before.reverse, String.ofList (reversed.takeWhile (· != ':')).reverse)

/-- The file reference and the line of function `index`, from its attributes. -/
def locate (index : Nat) (file line location : Option String) :
    Except Error (Option String × Option UInt32) :=
  match line with
  | some text =>
    match line? text with
    | some n => .ok (file, some n)
    | none => .error (.invalidLine index "line" text)
  | none =>
    match location.bind splitAtLastColon with
    | none => .ok (file, none)
    | some (place, text) =>
      match line? text with
      | some n => .ok (file.or (some place), some n)
      | none => .error (.invalidLine index "location" text)

end BindingCoverage.Dump
