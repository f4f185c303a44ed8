import BindingCoverage.Text.Decimal
import BindingCoverage.Yaml.Scalar

/-!
# Tokens

Besides what stands in the text there are tokens for the structure that indentation gives: the
start of a block sequence or mapping, and the end of either.
-/

namespace BindingCoverage.Yaml

inductive Token where
  | versionDirective (major minor : Nat)
  | tagDirective (handle start : String)
  | documentStart
  | documentEnd
  | blockSequenceStart
  | blockMappingStart
  | blockEnd
  | flowSequenceStart
  | flowSequenceEnd
  | flowMappingStart
  | flowMappingEnd
  | flowEntry
  | blockEntry
  | key
  | value
  | reference (name : String)
  | anchor (name : String)
  | tag (handle suffix : String)
  | scalar (style : Style) (text : String)
  deriving DecidableEq, Repr

/-! ## Names, tags and directives -/

/-- The name of an anchor or an alias, after its first character. -/
def readName (c : Cursor) : Option (String × Cursor) :=
  let (name, c) := c.readWhile isWordChar
  let ends := endsWord c.rest || c.peek.any fun d => "?:,]\x7d%@".toList.contains d || d == '\x60'
  if !name.isEmpty && ends then some (String.ofList name, c) else none

/-- The handle of a tag: an exclamation mark, or a word between two of them. A directive needs one
of these forms; elsewhere the second mark may be missing. -/
def readHandle (directive : Bool) (c : Cursor) : Option (List Char × Cursor) :=
  if c.peek != some '!' then none
  else
    let (word, c) := c.skip.readWhile isWordChar
    if c.peek == some '!' then some ('!' :: word ++ ['!'], c.skip)
    else if directive && !word.isEmpty then none
    else some ('!' :: word, c)

/-- Characters of a tag besides escaped ones. -/
def isTagChar (inUri : Bool) (c : Char) : Bool :=
  isWordChar c || ";/?:@&=+$.!~*'()".toList.contains c || (inUri && ",[]".toList.contains c)

/-- The octet that a percent sign and two hexadecimal digits write. -/
def escapedOctet? (c : Cursor) : Option (UInt8 × Cursor) :=
  match c.rest with
  | '%' :: a :: b :: _ => (hexNumber? [a, b]).map fun n => (UInt8.ofNat n, c.skipMany 3)
  | _ => none

/-- The tail octets of an escaped character. -/
def readTailOctets : Nat → Cursor → Option (List UInt8 × Cursor)
  | 0, c => some ([], c)
  | n + 1, c => do
    let (b, c) ← escapedOctet? c
    if b &&& 0xC0 != 0x80 then failure
    let (rest, c) ← readTailOctets n c
    return (b :: rest, c)

/-- A character whose octets are all escaped. -/
def readEscapedChar (c : Cursor) : Option (List Char × Cursor) := do
  let (b, c) ← escapedOctet? c
  let tails ←
    if b &&& 0x80 == 0 then some 0
    else if b &&& 0xE0 == 0xC0 then some 1
    else if b &&& 0xF0 == 0xE0 then some 2
    else if b &&& 0xF8 == 0xF0 then some 3
    else none
  let (rest, c) ← readTailOctets tails c
  return ((Utf8.lossy (b :: rest)).toList, c)

/-- The characters of a tag, `text` holding those already read, last first. -/
def readTagChars (inUri : Bool) : Nat → List Char → Cursor → Option (List Char × Cursor)
  | 0, _, _ => none
  | fuel + 1, text, c =>
    match c.peek with
    | none => some (text, c)
    | some d =>
      if d == '%' then
        match readEscapedChar c with
        | none => none
        | some (ds, c) => readTagChars inUri fuel (ds.reverse ++ text) c
      else if isTagChar inUri d then readTagChars inUri fuel (d :: text) c.skip
      else some (text, c)

/-- At least one character of a tag, counting those of `head`; of these the first is dropped. A NUL,
which has to be escaped, ends the tag early. -/
def readTagText (inUri : Bool) (head : List Char) (c : Cursor) : Option (List Char × Cursor) := do
  let (text, after) ← readTagChars inUri (c.rest.length + 1) (head.drop 1).reverse c
  if head.isEmpty && after.index == c.index then failure
  return (text.reverse.takeWhile (· != '\x00'), after)

/-- A tag, at its exclamation mark. -/
def readTag (inFlow : Bool) (c : Cursor) : Option (Token × Cursor) := do
  let (handle, suffix, c) ←
    if c.peekSecond == some '<' then do
      let (suffix, c) ← readTagText true [] (c.skipMany 2)
      if c.peek != some '>' then failure
      pure ([], suffix, c.skip)
    else do
      let (handle, c) ← readHandle false c
      if 1 < handle.length && handle.getLast? == some '!' then
        let (suffix, c) ← readTagText false [] c
        pure (handle, suffix, c)
      else
        let (suffix, c) ← readTagText false handle c
        pure (if suffix.isEmpty then ([], ['!'], c) else (['!'], suffix, c))
  if endsWord c.rest || (inFlow && c.peek == some ',') then
    return (.tag (String.ofList handle) (String.ofList suffix), c)
  else failure

/-- A number of a version: one to nine digits. -/
def readVersionNumber (c : Cursor) : Option (Nat × Cursor) :=
  let (digits, c) := c.readWhile Char.isDigit
  if digits.isEmpty || 9 < digits.length then none
  else some (Text.digitsValue digits, c)

/-- A directive, after its percent sign, up to the end of its line. -/
def readDirective (c : Cursor) : Option (Token × Cursor) := do
  let (name, c) := c.readWhile isWordChar
  if name.isEmpty || !endsWord c.rest then failure
  let c := c.skipWhile isSpaceOrTab
  let (token, c) ←
    if name = "YAML".toList then do
      let (major, c) ← readVersionNumber c
      if c.peek != some '.' then failure
      let (minor, c) ← readVersionNumber c.skip
      pure (Token.versionDirective major minor, c)
    else if name = "TAG".toList then do
      let (handle, c) ← readHandle true c
      if !c.atSpaceOrTab then failure
      let (start, c) ← readTagText true [] (c.skipWhile isSpaceOrTab)
      if !endsWord c.rest then failure
      pure (Token.tagDirective (String.ofList handle) (String.ofList start), c)
    else failure
  return (token, ← c.skipLineRest)

end BindingCoverage.Yaml
