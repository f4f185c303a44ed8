import BindingCoverage.Xml.Item

/-!
# Attributes

The attributes of a tag follow its name. Blanks are allowed before a key and around the equals
sign, and nothing is needed between a value and the next key. The first octet of a key may be any
octet that is not blank.

Offsets count from the start of the tag's content.
-/

namespace BindingCoverage.Xml

structure Attribute where
  key : List UInt8
  /-- What stands between the quotation marks. -/
  value : List UInt8
  deriving DecidableEq, Repr

/-- The rest of a tag and its offset in the tag. -/
structure TagCursor where
  offset : Nat
  rest : List UInt8
  deriving DecidableEq, Repr

namespace TagCursor

/-- Splits off the octets up to the first one with the property `p`. -/
def upTo (p : UInt8 → Bool) (c : TagCursor) : List UInt8 × TagCursor :=
  let part := c.rest.takeWhile (!p ·)
  (part, ⟨c.offset + part.length, c.rest.drop part.length⟩)

def skipBlanks (c : TagCursor) : TagCursor := (c.upTo (!isBlank ·)).2

/-- The key that starts here, and the place of the equals sign after it. -/
def key (c : TagCursor) : Except AttributeError (List UInt8 × TagCursor) :=
  match c.rest with
  | [] => .error (.expectedEq c.offset)
  | first :: rest =>
    let (more, after) := upTo (fun b => b == 0x3D || isBlank b) ⟨c.offset + 1, rest⟩
    let after := after.skipBlanks
    if after.rest.head? = some 0x3D then .ok (first :: more, after)
    else .error (.expectedEq after.offset)

/-- The quoted value that follows an equals sign, and the place after its closing quotation
mark. -/
def value (c : TagCursor) : Except AttributeError (List UInt8 × TagCursor) :=
  let c := c.skipBlanks
  match c.rest with
  | [] => .error (.expectedValue c.offset)
  | quote :: rest =>
    if quote == 0x22 || quote == 0x27 then
      let (text, after) := upTo (· == quote) ⟨c.offset + 1, rest⟩
      match after.rest with
      | [] => .error (.expectedQuote after.offset quote)
      | _ :: rest => .ok (text, ⟨after.offset + 1, rest⟩)
    else .error (.unquotedValue c.offset)

/-- The next attribute with the place after it; none when only blanks are left. `seen` holds the
keys before this one with their offsets. -/
def next (seen : List (List UInt8 × Nat)) (c : TagCursor) :
    Except AttributeError (Option (Nat × Attribute × TagCursor)) := do
  let c := c.skipBlanks
  if c.rest.isEmpty then return none
  let (key, after) ← c.key
  match seen.find? (·.1 == key) with
  | some (_, previous) => throw (.duplicated c.offset previous)
  | none =>
    let (value, after) ← value ⟨after.offset + 1, after.rest.drop 1⟩
    return some (c.offset, ⟨key, value⟩, after)

end TagCursor

/-- The attributes up to the first error. -/
structure Attributes where
  read : List Attribute
  error : Option AttributeError
  deriving DecidableEq, Repr

/-- The attributes from a place on; every attribute is at least one octet long, so the number of
octets left bounds their number. -/
def attributesFrom (seen : List (List UInt8 × Nat)) (c : TagCursor) : Nat → Attributes
  | 0 => ⟨[], none⟩
  | fuel + 1 =>
    match c.next seen with
    | .error e => ⟨[], some e⟩
    | .ok none => ⟨[], none⟩
    | .ok (some (offset, a, after)) =>
      let rest := attributesFrom ((a.key, offset) :: seen) after fuel
      ⟨a :: rest.read, rest.error⟩

def Tag.attributes (t : Tag) : Attributes :=
  let start := t.name.length
  attributesFrom [] ⟨start, t.content.drop start⟩ (t.content.length + 1)

end BindingCoverage.Xml
