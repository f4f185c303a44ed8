import BindingCoverage.Settings.Basic
import BindingCoverage.Yaml.Node

/-!
# Settings from YAML

A scalar is taken as the kind of value that a setting needs, so that `5` can be a text and a number.
A quoted scalar is never a number and never absent. Settings that are not known are not looked at.
-/

namespace BindingCoverage

namespace Yaml

/-- The text of any scalar. -/
def Node.text? : Node → Option String
  | .scalar _ _ text => some text
  | _ => none

/-- A sequence of texts; a plain scalar without text stands for none. -/
def Document.texts? (d : Document) : Node → Option (List String)
  | .sequence items => items.mapM fun item => (d.follow item).text?
  | .scalar .plain _ "" => some []
  | _ => none

def nullTag : String := "tag:yaml.org,2002:null"

def intTag : String := "tag:yaml.org,2002:int"

def isNullText (s : String) : Bool := ["null", "Null", "NULL", "~"].contains s

/-- What a node that may be absent is: nothing, or a node; or neither, if it is marked as absent
and has a text of another meaning. A node with any other tag is not absent. -/
def Node.option? (n : Node) : Option (Option Node) :=
  match n with
  | .scalar .plain (some tag) text =>
    if tag ≠ nullTag then some (some n)
    else if isNullText text then some none
    else none
  | .scalar .plain none text =>
    if text.isEmpty || isNullText text then some none else some (some n)
  | _ => some (some n)

/-- The number that digits of the given base write; there must be a digit. -/
def digitsValue? (base : Nat) (digits : List Char) : Option Nat :=
  if digits.isEmpty then none
  else digits.foldlM (fun n d => ((hexDigit? d).filter (· < base)).map (n * base + ·)) 0

/-- The base that a letter after a leading zero stands for. -/
def baseOf? (c : Char) : Option Nat :=
  if c = 'x' then some 16
  else if c = 'o' then some 8
  else if c = 'b' then some 2
  else none

/-- A number with one of the marks of other bases, or a decimal one without leading zeros. -/
def numeral? (digits : List Char) : Option Nat :=
  let decimal := if digits.head? = some '0' ∧ digits ≠ ['0'] then none else digitsValue? 10 digits
  match digits with
  | '0' :: mark :: rest =>
    match baseOf? mark with
    | some base => digitsValue? base rest
    | none => decimal
  | _ => decimal

/-- A whole number, with or without a plus sign. -/
def natural? (text : String) : Option Nat :=
  match text.toList with
  | '+' :: digits => numeral? digits
  | digits => numeral? digits

/-- A natural of 64 bits. -/
def Node.u64? (n : Node) : Option UInt64 :=
  match n with
  | .scalar style tag text =>
    if style = .plain ∨ (style = .literal ∧ tag = some intTag) then
      match natural? text with
      | some n => if n < Nat.pow 2 64 then some (UInt64.ofNat n) else none
      | none => none
    else none
  | _ => none

end Yaml

namespace Settings

/-- Reads the value of one setting in a document. -/
def setFromYaml (d : Yaml.Document) (s : Settings) (key : String) (value : Yaml.Node) :
    Option Settings :=
  if key = "extractor_bin" then return { s with extractor := ← value.text? }
  else if key = "extra_args" then return { s with extraArgs := ← d.texts? value }
  else if key = "timeout_secs" then
    match value.option? with
    | some (some n) => return { s with timeoutSecs := some (← n.u64?) }
    | some none => return { s with timeoutSecs := none }
    | none => none
  else if key = "scratch_dir" then
    match value.option? with
    | some (some n) => return { s with scratchDir := some (← n.text?) }
    | some none => return { s with scratchDir := none }
    | none => none
  else some s

/-- Reads the entries of a mapping in a document; `seen` holds the known keys before these, none of
which may come again. -/
def entriesFromYaml (d : Yaml.Document) (s : Settings) (seen : List String) :
    List (Yaml.Node × Yaml.Node) → Option Settings
  | [] => some s
  | (k, v) :: rest =>
    match (d.follow k).text? with
    | none => none
    | some key =>
      if seen.contains key then none
      else
        match setFromYaml d s key (d.follow v) with
        | none => none
        | some s =>
          let known := record.fields.any (·.key == key)
          entriesFromYaml d s (if known then key :: seen else seen) rest

/-- Reads settings from a text; one without a document leaves everything at its default. -/
def ofYaml (text : String) : Option Settings :=
  match Yaml.parse text with
  | none => none
  | some none => some default
  | some (some d) =>
    match d.root with
    | .mapping entries => entriesFromYaml d default [] entries
    | .scalar .plain _ "" => some default
    | _ => none

end Settings

end BindingCoverage
