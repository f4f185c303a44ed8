/-!
# UTF-8

Octets to characters and back.

* `decode`: the characters of a well-formed octet sequence, or the `Fault` that says where the
  first ill-formed part stands and how long it is.
* `lossy`: total decoding; every maximal ill-formed part becomes one U+FFFD.
* `encode`: the octets of a text.

Both decoders are one pass over the octets with the character under construction as their only
state, so they are structural recursions.
-/

namespace BindingCoverage.Utf8

/-- A character whose lead octet was read and whose tail octets are still owed. -/
structure Pending where
  /-- Octets read so far. -/
  read : Nat
  /-- Tail octets owed, less one. -/
  owed : Nat
  /-- The payload bits read so far. -/
  bits : Nat
  /-- The least octet that may come next. -/
  low : UInt8
  /-- The greatest octet that may come next. -/
  high : UInt8
  deriving DecidableEq, Repr

/-- What one octet leads to. -/
inductive Step where
  | char (c : Char)
  | more (p : Pending)
  | refused
  deriving DecidableEq, Repr

/-- The first octet of a character. The ranges exclude overlong forms, surrogates and code points
above U+10FFFF. -/
def lead (b : UInt8) : Step :=
  if b < 0x80 then .char (Char.ofNat b.toNat)
  else if b < 0xC2 then .refused
  else if b < 0xE0 then .more ⟨1, 0, b.toNat % 32, 0x80, 0xBF⟩
  else if b == 0xE0 then .more ⟨1, 1, 0, 0xA0, 0xBF⟩
  else if b == 0xED then .more ⟨1, 1, 13, 0x80, 0x9F⟩
  else if b < 0xF0 then .more ⟨1, 1, b.toNat % 16, 0x80, 0xBF⟩
  else if b == 0xF0 then .more ⟨1, 2, 0, 0x90, 0xBF⟩
  else if b < 0xF4 then .more ⟨1, 2, b.toNat % 8, 0x80, 0xBF⟩
  else if b == 0xF4 then .more ⟨1, 2, 4, 0x80, 0x8F⟩
  else .refused

/-- A tail octet. -/
def Pending.next (p : Pending) (b : UInt8) : Step :=
  if p.low ≤ b ∧ b ≤ p.high then
    let bits := p.bits * 64 + b.toNat % 64
    match p.owed with
    | 0 => .char (Char.ofNat bits)
    | owed + 1 => .more ⟨p.read + 1, owed, bits, 0x80, 0xBF⟩
  else .refused

/-- The first ill-formed part of an octet sequence: where it starts, and how many octets it has.
`length` is absent when the sequence ends inside a character. -/
structure Fault where
  index : Nat
  length : Option Nat
  deriving DecidableEq, Repr

def Fault.message (f : Fault) : String :=
  match f.length with
  | some n => s!"invalid utf-8 sequence of {n} bytes from index {f.index}"
  | none => s!"incomplete utf-8 byte sequence from index {f.index}"

/-- Decoding from `index` on, with a character under construction. -/
def decodeFrom (index : Nat) (pending : Option Pending) : List UInt8 → Except Fault (List Char)
  | [] =>
    match pending with
    | none => .ok []
    | some p => .error ⟨index - p.read, none⟩
  | b :: rest =>
    match pending with
    | none =>
      match lead b with
      | .char c => (c :: ·) <$> decodeFrom (index + 1) none rest
      | .more p => decodeFrom (index + 1) (some p) rest
      | .refused => .error ⟨index, some 1⟩
    | some p =>
      match p.next b with
      | .char c => (c :: ·) <$> decodeFrom (index + 1) none rest
      | .more p => decodeFrom (index + 1) (some p) rest
      | .refused => .error ⟨index - p.read, some p.read⟩

/-- The text of an octet sequence, or its first fault. -/
def decode (octets : List UInt8) : Except Fault String :=
  String.ofList <$> decodeFrom 0 none octets

/-- Stands for an ill-formed part. -/
def replacement : Char := '\uFFFD'

/-- Lossy decoding with a character under construction. -/
def lossyFrom (pending : Option Pending) : List UInt8 → List Char
  | [] =>
    match pending with
    | none => []
    | some _ => [replacement]
  | b :: rest =>
    match pending with
    | none =>
      match lead b with
      | .char c => c :: lossyFrom none rest
      | .more p => lossyFrom (some p) rest
      | .refused => replacement :: lossyFrom none rest
    | some p =>
      match p.next b with
      | .char c => c :: lossyFrom none rest
      | .more p => lossyFrom (some p) rest
      | .refused =>
        match lead b with
        | .char c => replacement :: c :: lossyFrom none rest
        | .more p => replacement :: lossyFrom (some p) rest
        | .refused => replacement :: replacement :: lossyFrom none rest

/-- The text of an octet sequence, each ill-formed part replaced by U+FFFD. -/
def lossy (octets : List UInt8) : String :=
  String.ofList (lossyFrom none octets)

/-- The octets of a text. -/
def encode (s : String) : List UInt8 := s.toByteArray.data.toList

end BindingCoverage.Utf8
