import BindingCoverage.Dump.Location
import BindingCoverage.Xml.Entity
import BindingCoverage.Xml.Nesting

/-!
# Collecting declarations

A `Collector` goes through the items of a dump. It takes function elements that are not within
another function element, with their direct parameters, and the file elements that file references
are resolved with. All other elements only count for the nesting.

Attributes are looked at in these elements only.
-/

namespace BindingCoverage.Dump

structure Collector where
  /-- The names of the open elements, innermost first. -/
  names : List String := []
  sawRoot : Bool := false
  /-- The open function with the number of elements that are open around it. -/
  current : Option (Nat × Declaration) := none
  /-- Complete functions, latest first. -/
  complete : List Declaration := []
  /-- The ids and names of files, latest first. -/
  files : List (String × String) := []
  deriving DecidableEq, Repr

/-- The attributes of a tag with their texts. -/
def attributesOf (position : Nat) (tag : Xml.Tag) :
    Except Error (List (List UInt8 × String)) := do
  let attributes := tag.attributes
  let texts ← attributes.read.mapM fun a => do
    return (a.key, ← a.text.mapError (.markup position))
  match attributes.error with
  | some e => throw (.attributes position e)
  | none => return texts

/-- The text of an attribute. -/
def textOf? (attributes : List (List UInt8 × String)) (key : String) : Option String :=
  (attributes.find? (·.1 == Utf8.encode key)).map (·.2)

/-- The declaration in the tag of function `index`. -/
def declarationOf (index position : Nat) (tag : Xml.Tag) : Except Error Declaration := do
  let text? := textOf? (← attributesOf position tag)
  let (file, line) ← locate index (text? "file") (text? "line") (text? "location")
  return {
    name := (text? "name").getD ""
    id := text? "id"
    returns := text? "returns"
    isExtern := text? "extern" == some "1"
    isInline := text? "inline" == some "1"
    isStatic := text? "static" == some "1"
    file := file
    line := line }

namespace Collector

/-- Whether the innermost open element is the open function. -/
def inFunction (c : Collector) : Option Declaration :=
  match c.current with
  | some (depth, d) => if depth + 1 = c.names.length then some d else none
  | none => none

/-- Replaces the open function. -/
def setCurrent (c : Collector) (d : Declaration) : Collector :=
  { c with current := c.current.map fun (depth, _) => (depth, d) }

/-- A function element. Within another one it is like any other element. -/
def enterFunction (c : Collector) (position : Nat) (tag : Xml.Tag) (isEmpty : Bool) :
    Except Error Collector :=
  match c.current with
  | some _ => .ok c
  | none => do
    let d ← declarationOf c.complete.length position tag
    if isEmpty then return { c with complete := d :: c.complete }
    else return { c with current := some (c.names.length, d) }

/-- An argument element, which counts directly in the open function only. -/
def enterArgument (c : Collector) (position : Nat) (tag : Xml.Tag) : Except Error Collector :=
  match c.inFunction with
  | none => .ok c
  | some d => do
    let text? := textOf? (← attributesOf position tag)
    let p : Parameter := { name := text? "name", typeId := text? "type" }
    return c.setCurrent { d with parameters := d.parameters ++ [p] }

def enterEllipsis (c : Collector) : Collector :=
  match c.inFunction with
  | none => c
  | some d => c.setCurrent { d with variadic := true }

/-- A file element, which needs both an id and a name. -/
def enterFile (c : Collector) (position : Nat) (tag : Xml.Tag) : Except Error Collector := do
  let text? := textOf? (← attributesOf position tag)
  match text? "id", text? "name" with
  | some id, some name => return { c with files := (id, name) :: c.files }
  | _, _ => return c

def enterElement (c : Collector) (position : Nat) (tag : Xml.Tag) (isEmpty : Bool) :
    Except Error Collector :=
  if tag.name = Utf8.encode "Function" then c.enterFunction position tag isEmpty
  else if tag.name = Utf8.encode "Argument" then c.enterArgument position tag
  else if tag.name = Utf8.encode "Ellipsis" then .ok c.enterEllipsis
  else if tag.name = Utf8.encode "File" then c.enterFile position tag
  else .ok c

/-- What the tag of an element says, before the element is opened or, if it is empty, passed. -/
def enter (c : Collector) (position : Nat) (tag : Xml.Tag) (isEmpty : Bool) :
    Except Error Collector :=
  if c.names.isEmpty && c.sawRoot then .error (.secondRoot (Utf8.lossy tag.name) position)
  else enterElement { c with sawRoot := true } position tag isEmpty

/-- The end of an element. -/
def leave (c : Collector) (position : Nat) (name : List UInt8) : Except Error Collector :=
  let found := Utf8.lossy name
  match c.names with
  | [] => .error (.mismatchedEnd "" found position)
  | expected :: outer =>
    if expected = found then
      let c := { c with names := outer }
      match c.current with
      | some (depth, d) =>
        if depth = outer.length then
          .ok { c with current := none, complete := d :: c.complete }
        else .ok c
      | none => .ok c
    else .error (.mismatchedEnd expected found position)

/-- Takes one item. -/
def take (c : Collector) (i : Xml.Located) : Except Error Collector :=
  match i.item with
  | .start tag => do
    let c ← c.enter i.position tag false
    return { c with names := Utf8.lossy tag.name :: c.names }
  | .empty tag => c.enter i.position tag true
  | .close name => c.leave i.position name
  | .aside => .ok c

/-- Takes all items of a reading. -/
def collect (r : Xml.Reading) : Except Error Collector := do
  let c ← r.items.foldlM take ({} : Collector)
  match r.fault with
  | some fault => throw (.markup fault.position fault.error)
  | none => return c

/-- The declaration with the name of its file in place of the reference to it. -/
def resolveFile (files : List (String × String)) (d : Declaration) : Declaration :=
  match d.file.bind fun id => files.find? (·.1 == id) with
  | some (_, name) => { d with file := some name }
  | none => d

/-- The declarations of a complete document. -/
def finish (c : Collector) : Except Error (List Declaration) :=
  match c.names with
  | name :: _ => .error (.unclosed name)
  | [] =>
    if c.sawRoot then .ok (c.complete.reverse.map (resolveFile c.files)) else .error .noRoot

end Collector

/-- Reads the set of functions that a dump declares. -/
def decode (feed : Xml.Feed) : Except Error DeclarationSet := do
  let found ← (← Collector.collect (Xml.read feed)).finish
  (DeclarationSet.ensure found).mapError .missingName

/-- Reads a dump that is held in memory. -/
def decodeOctets (octets : List UInt8) : Except Error DeclarationSet :=
  decode (.whole octets)

end BindingCoverage.Dump
