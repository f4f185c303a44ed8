import BindingCoverage.Json.Cursor

/-!
# Reading JSON: typed values

A `Decoder α` reads a value of a known type from a cursor. `Decoder.run` reads a whole text.

* Arrays and objects may be nested `depthLimit - 1` deep; the first argument of a decoder is the
  number of levels left, plus one.
* A `Record` reads a structure from an object, with any fields that it does not know skipped, or
  from an array that lists the fields in order. A complaint about the record as a whole is placed
  after its closing bracket, if that comes next.
-/

namespace BindingCoverage.Json

def depthLimit : Nat := 128

abbrev Decoder (α : Type) := Nat → Cursor → Except Error (α × Cursor)

/-- The error for a value of the wrong type, after the value. -/
def mismatch {α : Type} (expected : String) (c : Cursor) : Except Error α :=
  let found (f : Found) (after : Cursor) : Except Error α := after.fail (.invalidType f expected)
  match c.peek with
  | some 0x6E => do found .null (← word [0x75, 0x6C, 0x6C] c.advance)
  | some 0x74 => do found (.bool true) (← word [0x72, 0x75, 0x65] c.advance)
  | some 0x66 => do found (.bool false) (← word [0x61, 0x6C, 0x73, 0x65] c.advance)
  | some 0x2D => do
    let (n, after) ← numberAfterSign false c.advance
    found (.number n) after
  | some 0x22 => do
    let (s, after) ← stringBody c.advance
    found (.string s) after
  | some 0x5B => found .array c
  | some 0x7B => found .object c
  | some b =>
    if isDigit b then do
      let (n, after) ← numberAfterSign true c
      found (.number n) after
    else c.failNext .expectedValue
  | none => c.failNext .expectedValue

namespace Decoder

variable {α : Type}

/-- Skips blanks and requires that a value follows. -/
def atValue (c : Cursor) : Except Error (UInt8 × Cursor) :=
  let c := c.skipBlanks
  match c.peek with
  | none => c.fail .endInValue
  | some b => .ok (b, c)

def string (expected : String) : Decoder String := fun _ c => do
  let (b, c) ← atValue c
  if b == 0x22 then stringBody c.advance else mismatch expected c

def bool : Decoder Bool := fun _ c => do
  let (b, c) ← atValue c
  if b == 0x74 then return (true, ← word [0x72, 0x75, 0x65] c.advance)
  else if b == 0x66 then return (false, ← word [0x61, 0x6C, 0x73, 0x65] c.advance)
  else mismatch "a boolean" c

/-- A whole number of at most so many bits. -/
def natural (bits : Nat) (expected : String) : Decoder Nat := fun _ c => do
  let (b, c) ← atValue c
  if b == 0x2D || isDigit b then
    let (n, after) ←
      if b == 0x2D then numberAfterSign false c.advance else numberAfterSign true c
    match n with
    | .natural n =>
      if n < Nat.pow 2 bits then return (n, after)
      else after.fail (.invalidValue (.number (.natural n)) expected)
    | .negative _ => after.fail (.invalidValue (.number n) expected)
    | .double _ => after.fail (.invalidType (.number n) expected)
  else mismatch expected c

def u32 : Decoder UInt32 := fun depth c => do
  let (n, after) ← natural 32 "u32" depth c
  return (UInt32.ofNat n, after)

def u64 : Decoder UInt64 := fun depth c => do
  let (n, after) ← natural 64 "u64" depth c
  return (UInt64.ofNat n, after)

/-- `null`, or a value. -/
def option (value : Decoder α) : Decoder (Option α) := fun depth c =>
  let c := c.skipBlanks
  match c.peek with
  | some 0x6E => do return (none, ← word [0x75, 0x6C, 0x6C] c.advance)
  | _ => do
    let (v, after) ← value depth c
    return (some v, after)

/-- Whether another item follows in an array; `first` before the first item. Ends before the item
or before the closing bracket. -/
def moreItems (first : Bool) (c : Cursor) : Except Error (Bool × Cursor) :=
  let c := c.skipBlanks
  match c.peek with
  | none => c.fail .endInArray
  | some 0x5D => .ok (false, c)
  | some 0x2C =>
    if first then .ok (true, c)
    else
      let c := c.advance.skipBlanks
      match c.peek with
      | none => c.fail .endInValue
      | some 0x5D => c.failNext .trailingComma
      | some _ => .ok (true, c)
  | some _ => if first then .ok (true, c) else c.failNext .expectedCommaOrBracket

/-- Whether another key follows in an object. Ends before the key's quotation mark or before the
closing brace. -/
def moreFields (first : Bool) (c : Cursor) : Except Error (Bool × Cursor) :=
  let c := c.skipBlanks
  match c.peek with
  | none => c.fail .endInObject
  | some 0x7D => .ok (false, c)
  | some b =>
    if first then
      if b == 0x22 then .ok (true, c) else c.failNext .keyNotString
    else if b == 0x2C then
      let c := c.advance.skipBlanks
      match c.peek with
      | none => c.fail .endInValue
      | some 0x22 => .ok (true, c)
      | some 0x7D => c.failNext .trailingComma
      | some _ => c.failNext .keyNotString
    else c.failNext .expectedCommaOrBrace

/-- The colon after a key. -/
def colon (c : Cursor) : Except Error Cursor :=
  let c := c.skipBlanks
  match c.peek with
  | none => c.fail .endInObject
  | some 0x3A => .ok c.advance
  | some _ => c.failNext .expectedColon

/-- The closing bracket of an array. -/
def closeArray (c : Cursor) : Except Error Cursor :=
  let c := c.skipBlanks
  match c.peek with
  | none => c.fail .endInArray
  | some 0x5D => .ok c.advance
  | some 0x2C =>
    let c := c.advance.skipBlanks
    match c.peek with
    | some 0x5D => c.failNext .trailingComma
    | _ => c.failNext .trailingCharacters
  | some _ => c.failNext .trailingCharacters

/-- Where a complaint about a whole array is placed: after its end, if that comes next. -/
def arrayEnd (c : Cursor) : Cursor :=
  let c := c.skipBlanks
  match c.peek with
  | some 0x5D => c.advance
  | some 0x2C => c.advance.skipBlanks
  | _ => c

/-- Where a complaint about a whole object is placed: after its end, if that comes next. -/
def objectEnd (c : Cursor) : Cursor :=
  let c := c.skipBlanks
  match c.peek with
  | some 0x7D => c.advance
  | _ => c

/-- Opens one more level. -/
def deeper (c : Cursor) : Nat → Except Error (Nat × Cursor)
  | 0 | 1 => c.failNext .tooDeep
  | depth + 2 => .ok (depth + 1, c.advance)

/-- The items of an array up to its closing bracket; every item is at least one octet long, so the
number of octets left bounds their number. -/
def items (item : Decoder α) (depth : Nat) : Nat → Bool → Cursor → Except Error (List α × Cursor)
  | 0, _, c => c.fail .endInArray
  | fuel + 1, first, c => do
    let (more, c) ← moreItems first c
    if more then
      let (v, c) ← item depth c
      let (rest, c) ← items item depth fuel false c
      return (v :: rest, c)
    else return ([], c)

def list (item : Decoder α) : Decoder (List α) := fun depth c => do
  let (b, c) ← atValue c
  if b == 0x5B then
    let (depth, c) ← deeper c depth
    let (values, c) ← items item depth (c.rest.length + 1) true c
    return (values, ← closeArray c)
  else mismatch "a sequence" c

/-! ## Values of no interest -/

/-- What encloses the value being skipped. -/
inductive Enclosure where
  | array
  | object
  deriving DecidableEq, Repr

/-- Reads over a word, a number or a string; for a bracket, what it opens. -/
def skipOpening (c : Cursor) : Except Error (Option Enclosure × Cursor) := do
  let (b, c) ← atValue c
  if b == 0x6E then return (none, ← word [0x75, 0x6C, 0x6C] c.advance)
  else if b == 0x74 then return (none, ← word [0x72, 0x75, 0x65] c.advance)
  else if b == 0x66 then return (none, ← word [0x61, 0x6C, 0x73, 0x65] c.advance)
  else if b == 0x2D then return (none, ← skipNumber c.advance)
  else if isDigit b then return (none, ← skipNumber c)
  else if b == 0x22 then return (none, ← skipString c.advance)
  else if b == 0x5B then return (some .array, c.advance)
  else if b == 0x7B then return (some .object, c.advance)
  else c.failNext .expectedValue

/-- After a value or an opening bracket: closes what ends here. `enclosures` holds the innermost
first; the result is empty when the outermost was closed, and else the cursor stands where the
next item or key starts. -/
def skipClosings (comma : Bool) : List Enclosure → Cursor → Except Error (List Enclosure × Cursor)
  | [], c => .ok ([], c)
  | e :: outer, c =>
    let c := c.skipBlanks
    match e, c.peek with
    | .array, none => c.fail .endInArray
    | .object, none => c.fail .endInObject
    | e, some b =>
      if b == 0x2C && comma then .ok (e :: outer, c.advance)
      else if (b == 0x5D && e == .array) || (b == 0x7D && e == .object) then
        skipClosings true outer c.advance
      else if comma then
        c.failNext (if e == .array then .expectedCommaOrBracket else .expectedCommaOrBrace)
      else .ok (e :: outer, c)

/-- Reads over a key and its colon. -/
def skipKey (c : Cursor) : Except Error Cursor := do
  let c := c.skipBlanks
  match c.peek with
  | none => c.fail .endInObject
  | some 0x22 =>
    let c ← skipString c.advance
    colon c
  | some _ => c.failNext .keyNotString

/-- Reads over the values that are left in the enclosures, one opening at a time. -/
def skipValues : Nat → List Enclosure → Cursor → Except Error Cursor
  | 0, _, c => c.fail .endInValue
  | fuel + 1, enclosures, c => do
    let (opened, c) ← skipOpening c
    let (enclosures, c) ←
      match opened with
      | some e => skipClosings false (e :: enclosures) c
      | none => skipClosings true enclosures c
    match enclosures with
    | [] => return c
    | .array :: _ => skipValues fuel enclosures c
    | .object :: _ =>
      let c ← skipKey c
      skipValues fuel enclosures c

/-- Reads over any value, however deep. -/
def skipValue (c : Cursor) : Except Error Cursor := skipValues (c.rest.length + 1) [] c

/-! ## Records -/

end Decoder

/-- A field of a record of type `ρ`. -/
structure Field (ρ : Type) where
  key : String
  required : Bool
  /-- Reads the value into a record. -/
  read : ρ → Decoder ρ

structure Record (ρ : Type) where
  /-- How error messages call it. -/
  name : String
  /-- Holds the values of the optional fields that are absent. -/
  initial : ρ
  fields : List (Field ρ)

namespace Record

variable {ρ : Type}

/-- The record and its number of fields, as error messages call them. -/
def arity (r : Record ρ) : String :=
  let n := r.fields.length
  let noun := if n = 1 then "element" else "elements"
  s!"{r.name} with {n} {noun}"

/-- The fields of an object up to its closing brace; `seen` holds the known keys read so far. -/
def objectFields (r : Record ρ) (depth : Nat) :
    Nat → Bool → List String → ρ → Cursor → Except Error (List String × ρ × Cursor)
  | 0, _, _, _, c => c.fail .endInObject
  | fuel + 1, first, seen, value, c => do
    let (more, c) ← Decoder.moreFields first c
    if more then
      let (key, c) ← stringBody c.advance
      match r.fields.find? (·.key == key) with
      | none =>
        let c ← Decoder.colon c
        let c ← Decoder.skipValue c
        objectFields r depth fuel false seen value c
      | some field =>
        if seen.contains key then (Decoder.objectEnd c).fail (.duplicateField key)
        else
          let c ← Decoder.colon c
          let (value, c) ← field.read value depth c
          objectFields r depth fuel false (key :: seen) value c
    else return (seen, value, c)

/-- The fields listed in an array, from the field with the given index on. -/
def arrayFields (r : Record ρ) (depth : Nat) :
    List (Field ρ) → Nat → ρ → Cursor → Except Error (ρ × Cursor)
  | [], _, value, c => .ok (value, c)
  | field :: rest, index, value, c => do
    let (more, c) ← Decoder.moreItems (index == 0) c
    if more then
      let (value, c) ← field.read value depth c
      arrayFields r depth rest (index + 1) value c
    else if field.required then (Decoder.arrayEnd c).fail (.invalidLength index r.arity)
    else arrayFields r depth rest (index + 1) value c

def decoder (r : Record ρ) : Decoder ρ := fun depth c => do
  let (b, c) ← Decoder.atValue c
  if b == 0x5B then
    let (depth, c) ← Decoder.deeper c depth
    let (value, c) ← r.arrayFields depth r.fields 0 r.initial c
    return (value, ← Decoder.closeArray c)
  else if b == 0x7B then
    let (depth, c) ← Decoder.deeper c depth
    let (seen, value, c) ← r.objectFields depth (c.rest.length + 1) true [] r.initial c
    match r.fields.find? fun f => f.required && !seen.contains f.key with
    | some field => (Decoder.objectEnd c).fail (.missingField field.key)
    | none => return (value, (Decoder.objectEnd c))
  else mismatch r.name c

end Record

namespace Decoder

variable {α : Type}

/-! ## Any value -/

/-- A JSON value; fields are sorted by key and the last one of a key stays. -/
def value : Nat → Cursor → Except Error (Json × Cursor)
  | 0, c => c.failNext .tooDeep
  | depth + 1, c => do
    let (b, c) ← atValue c
    if b == 0x6E then return (.null, ← word [0x75, 0x6C, 0x6C] c.advance)
    else if b == 0x74 then return (.bool true, ← word [0x72, 0x75, 0x65] c.advance)
    else if b == 0x66 then return (.bool false, ← word [0x61, 0x6C, 0x73, 0x65] c.advance)
    else if b == 0x2D then
      let (n, c) ← numberAfterSign false c.advance
      return (.number n, c)
    else if isDigit b then
      let (n, c) ← numberAfterSign true c
      return (.number n, c)
    else if b == 0x22 then
      let (s, c) ← stringBody c.advance
      return (.string s, c)
    else if b == 0x5B then
      if depth = 0 then c.failNext .tooDeep
      else
        let c := c.advance
        let (values, c) ← items (fun _ => value depth) depth (c.rest.length + 1) true c
        return (.array values, ← closeArray c)
    else if b == 0x7B then
      if depth = 0 then c.failNext .tooDeep
      else
        let c := c.advance
        let (fields, c) ← fieldsFrom (value depth) (c.rest.length + 1) true [] c
        return (.object fields, objectEnd c)
    else c.failNext .expectedValue
where
  fieldsFrom (read : Cursor → Except Error (Json × Cursor)) :
      Nat → Bool → List (String × Json) → Cursor → Except Error (List (String × Json) × Cursor)
    | 0, _, _, c => c.fail .endInObject
    | fuel + 1, first, fields, c => do
      let (more, c) ← moreFields first c
      if more then
        let (key, c) ← stringBody c.advance
        let c ← colon c
        let (v, c) ← read c
        fieldsFrom read fuel false (Text.Sorted.put key v fields) c
      else return (fields, c)

/-- Reads a whole text: one value and nothing but blanks after it. -/
def run (decoder : Decoder α) (octets : List UInt8) : Except Error α := do
  let (v, c) ← decoder depthLimit (Cursor.start octets)
  let c := c.skipBlanks
  match c.peek with
  | none => return v
  | some _ => c.failNext .trailingCharacters

end Decoder

/-- Reads a whole text as a value. -/
def parse (text : String) : Except Error Json :=
  Decoder.run Decoder.value (Utf8.encode text)

end BindingCoverage.Json
