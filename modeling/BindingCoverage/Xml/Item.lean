import BindingCoverage.Xml.Error

/-!
# Items

The items of a document, in order: tags, and everything else that markup can hold. What stands
between tags has no meaning here, so texts, comments, character data sections, instructions and
document types are all the same item, `aside`.

A `Reading` is what reading a document brings: the items with the positions where they start,
and the fault at which the reading stops, if it does not get to the end.
-/

namespace BindingCoverage.Xml

/-- Space, tab, line feed and carriage return. -/
def isBlank (b : UInt8) : Bool := b == 0x20 || b == 0x09 || b == 0x0A || b == 0x0D

/-- A start tag or an empty-element tag, as what stands between its brackets, without the slash
that closes an empty element. -/
structure Tag where
  content : List UInt8
  deriving DecidableEq, Repr

/-- All up to the first blank. A name may be empty. -/
def Tag.name (t : Tag) : List UInt8 := t.content.takeWhile (!isBlank ·)

inductive Item where
  | start (tag : Tag)
  | empty (tag : Tag)
  | close (name : List UInt8)
  | aside
  deriving DecidableEq, Repr

/-- The item that a tag is, from what stands between its brackets. The name of an end tag may have
blanks after it; a name of blanks only is left as it is. -/
def Item.ofTag (content : List UInt8) : Item :=
  match content with
  | 0x2F :: name =>
    let trimmed := (name.reverse.dropWhile isBlank).reverse
    .close (if trimmed.isEmpty then name else trimmed)
  | _ => if content.getLast? = some 0x2F then .empty ⟨content.dropLast⟩ else .start ⟨content⟩

/-- An item and the number of octets of the document before it. -/
structure Located where
  position : Nat
  item : Item
  deriving DecidableEq, Repr

/-- An error and where the item starts that has it. -/
structure Fault where
  position : Nat
  error : Error
  deriving DecidableEq, Repr

structure Reading where
  items : List Located
  fault : Option Fault
  deriving DecidableEq, Repr

/-- Puts an item before a reading. -/
def Reading.cons (i : Located) (r : Reading) : Reading := { r with items := i :: r.items }

end BindingCoverage.Xml
