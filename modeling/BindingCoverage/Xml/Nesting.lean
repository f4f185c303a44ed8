import BindingCoverage.Text.Utf8
import BindingCoverage.Xml.Buffer

/-!
# Nesting

An end tag must have the name of the innermost element that is open. A reading stops at the first
end tag that does not. Elements that are open at the end of the document are no fault here.
-/

namespace BindingCoverage.Xml

/-- A name in a message; no text if it is not well-formed. -/
def nameText (name : List UInt8) : String :=
  match Utf8.decode name with
  | .ok text => text
  | .error _ => ""

/-- The open elements after an item, innermost first. -/
def nest (names : List (List UInt8)) : Item → Except StructureError (List (List UInt8))
  | .start tag => .ok (tag.name :: names)
  | .empty _ | .aside => .ok names
  | .close name =>
    match names with
    | [] => .error (.unmatchedEnd (nameText name))
    | expected :: outer =>
      if name = expected then .ok outer
      else .error (.mismatchedEnd (nameText expected) (nameText name))

/-- The items up to the first end tag that does not fit. -/
def nestedFrom (names : List (List UInt8)) (fault : Option Fault) : List Located → Reading
  | [] => ⟨[], fault⟩
  | i :: rest =>
    match nest names i.item with
    | .ok names => (nestedFrom names fault rest).cons i
    | .error e => ⟨[], some ⟨i.position, .structural e⟩⟩

def Reading.nested (r : Reading) : Reading := nestedFrom [] r.fault r.items

/-- Reads a document. -/
def read (feed : Feed) : Reading := (Reading.flat feed).nested

end BindingCoverage.Xml
