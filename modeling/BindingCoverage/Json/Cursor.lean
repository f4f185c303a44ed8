import BindingCoverage.Json.Error
import BindingCoverage.Text.Utf8

/-!
# Reading JSON: tokens

A `Cursor` is the octets not read yet and the place they start at. The functions of this module
read blanks, words, strings and numbers.

An error is placed either where the cursor stands (`fail`) or after the octet that it looked at
without reading it (`failNext`).
-/

namespace BindingCoverage.Json

structure Cursor where
  rest : List UInt8
  /-- Counted from one. -/
  line : Nat
  /-- The octets of this line already read. -/
  column : Nat
  deriving DecidableEq, Repr

namespace Cursor

def start (octets : List UInt8) : Cursor := ⟨octets, 1, 0⟩

/-- The octet not read yet. -/
def peek (c : Cursor) : Option UInt8 := c.rest.head?

/-- Reads one octet, if there is one. -/
def advance (c : Cursor) : Cursor :=
  match c.rest with
  | [] => c
  | b :: rest => if b == 0x0A then ⟨rest, c.line + 1, 0⟩ else ⟨rest, c.line, c.column + 1⟩

def fail {α : Type} (c : Cursor) (cause : Cause) : Except Error α :=
  .error ⟨cause, c.line, c.column⟩

def failNext {α : Type} (c : Cursor) (cause : Cause) : Except Error α :=
  c.advance.fail cause

end Cursor

/-- Space, tab, line feed and carriage return. -/
def isBlank (b : UInt8) : Bool := b == 0x20 || b == 0x09 || b == 0x0A || b == 0x0D

/-- Blanks from a place on. -/
def skipBlanksFrom (line column : Nat) : List UInt8 → Cursor
  | [] => ⟨[], line, column⟩
  | b :: rest =>
    if b == 0x0A then skipBlanksFrom (line + 1) 0 rest
    else if isBlank b then skipBlanksFrom line (column + 1) rest
    else ⟨b :: rest, line, column⟩

def Cursor.skipBlanks (c : Cursor) : Cursor := skipBlanksFrom c.line c.column c.rest

/-- Reads the given octets. -/
def word : List UInt8 → Cursor → Except Error Cursor
  | [], c => .ok c
  | expected :: more, c =>
    match c.peek with
    | none => c.fail .endInValue
    | some b => if b == expected then word more c.advance else c.failNext .expectedWord

/-! ## Strings -/

/-- The value of a hexadecimal digit. -/
def hexValue? (b : UInt8) : Option Nat :=
  if 0x30 ≤ b ∧ b ≤ 0x39 then some (b.toNat - 0x30)
  else if 0x41 ≤ b ∧ b ≤ 0x46 then some (b.toNat - 0x41 + 10)
  else if 0x61 ≤ b ∧ b ≤ 0x66 then some (b.toNat - 0x61 + 10)
  else none

/-- The number that four hexadecimal digits write. -/
def hexUnit? (a b c d : UInt8) : Option Nat := do
  let a ← hexValue? a
  let b ← hexValue? b
  let c ← hexValue? c
  let d ← hexValue? d
  return ((a * 16 + b) * 16 + c) * 16 + d

/-- The octet that a one-letter escape stands for. -/
def shortEscape? (b : UInt8) : Option UInt8 :=
  if b == 0x22 || b == 0x5C || b == 0x2F then some b
  else if b == 0x62 then some 0x08
  else if b == 0x66 then some 0x0C
  else if b == 0x6E then some 0x0A
  else if b == 0x72 then some 0x0D
  else if b == 0x74 then some 0x09
  else none

def isLeadSurrogate (n : Nat) : Bool := 0xD800 ≤ n && n ≤ 0xDBFF

def isTailSurrogate (n : Nat) : Bool := 0xDC00 ≤ n && n ≤ 0xDFFF

/-- Puts octets before those of a string read to its end. -/
def prepend (octets : List UInt8) (r : Except Error (List UInt8 × Cursor)) :
    Except Error (List UInt8 × Cursor) :=
  r.map fun (more, c) => (octets ++ more, c)

/-- An error after reading the given octets. -/
def errorAfter {α : Type} (cause : Cause) (line column : Nat) : List UInt8 → Except Error α
  | [] => .error ⟨cause, line, column⟩
  | b :: rest =>
    if b == 0x0A then errorAfter cause (line + 1) 0 rest
    else errorAfter cause line (column + 1) rest

/-- The octets of a string after its first quotation mark, escapes resolved. A string holds no
line feed, so only the column moves. -/
def stringFrom (line : Nat) : Nat → List UInt8 → Except Error (List UInt8 × Cursor)
  | column, [] => .error ⟨.endInString, line, column⟩
  | column, b :: rest =>
    if b == 0x22 then .ok ([], ⟨rest, line, column + 1⟩)
    else if b == 0x5C then
      match rest with
      | [] => .error ⟨.endInString, line, column + 1⟩
      | e :: rest =>
        match shortEscape? e with
        | some octet => prepend [octet] (stringFrom line (column + 2) rest)
        | none =>
          if e != 0x75 then errorAfter .invalidEscape line column [b, e]
          else
            match rest with
            | h₁ :: h₂ :: h₃ :: h₄ :: rest =>
              match hexUnit? h₁ h₂ h₃ h₄ with
              | none => errorAfter .invalidEscape line (column + 2) [h₁, h₂, h₃, h₄]
              | some unit =>
                if isTailSurrogate unit then .error ⟨.loneSurrogate, line, column + 6⟩
                else if !isLeadSurrogate unit then
                  prepend (String.utf8EncodeChar (Char.ofNat unit))
                    (stringFrom line (column + 6) rest)
                else
                  match rest with
                  | [] => .error ⟨.endInString, line, column + 6⟩
                  | s :: rest =>
                    if s != 0x5C then errorAfter .endOfSurrogate line (column + 6) [s]
                    else
                      match rest with
                      | [] => .error ⟨.endInString, line, column + 7⟩
                      | u :: rest =>
                        if u != 0x75 then errorAfter .endOfSurrogate line (column + 7) [u]
                        else
                          match rest with
                          | l₁ :: l₂ :: l₃ :: l₄ :: rest =>
                            match hexUnit? l₁ l₂ l₃ l₄ with
                            | none => errorAfter .invalidEscape line (column + 8) [l₁, l₂, l₃, l₄]
                            | some tail =>
                              if isTailSurrogate tail then
                                let code := (unit - 0xD800) * 0x400 + (tail - 0xDC00) + 0x10000
                                prepend (String.utf8EncodeChar (Char.ofNat code))
                                  (stringFrom line (column + 12) rest)
                              else .error ⟨.loneSurrogate, line, column + 12⟩
                          | short => errorAfter .endInString line (column + 8) short
            | short => errorAfter .endInString line (column + 2) short
    else if b < 0x20 then errorAfter .controlCharacter line column [b]
    else prepend [b] (stringFrom line (column + 1) rest)

/-- A string after its first quotation mark. Octets that are no UTF-8 are reported as far before the
end of the string as there are octets after the well-formed ones, escapes resolved. -/
def stringBody (c : Cursor) : Except Error (String × Cursor) := do
  let (octets, after) ← stringFrom c.line c.column c.rest
  match Utf8.decode octets with
  | .ok s => return (s, after)
  | .error fault =>
    .error ⟨.invalidCodePoint, after.line, after.column - (octets.length - fault.index)⟩

/-- Reads over a string after its first quotation mark; surrogates are not looked at. -/
def skipStringFrom (line : Nat) : Nat → List UInt8 → Except Error Cursor
  | column, [] => .error ⟨.endInString, line, column⟩
  | column, b :: rest =>
    if b == 0x22 then .ok ⟨rest, line, column + 1⟩
    else if b == 0x5C then
      match rest with
      | [] => .error ⟨.endInString, line, column + 1⟩
      | e :: rest =>
        if (shortEscape? e).isSome then skipStringFrom line (column + 2) rest
        else if e != 0x75 then errorAfter .invalidEscape line column [b, e]
        else
          match rest with
          | h₁ :: h₂ :: h₃ :: h₄ :: rest =>
            if (hexUnit? h₁ h₂ h₃ h₄).isSome then skipStringFrom line (column + 6) rest
            else errorAfter .invalidEscape line (column + 2) [h₁, h₂, h₃, h₄]
          | short => errorAfter .endInString line (column + 2) short
    else if b < 0x20 then .error ⟨.controlCharacter, line, column⟩
    else skipStringFrom line (column + 1) rest

def skipString (c : Cursor) : Except Error Cursor := skipStringFrom c.line c.column c.rest

/-! ## Numbers -/

def isDigit (b : UInt8) : Bool := 0x30 ≤ b && b ≤ 0x39

/-- The digits that come next, as numbers. -/
def Cursor.digits (c : Cursor) : List Nat :=
  (c.rest.takeWhile isDigit).map fun b => b.toNat - 0x30

/-- Past the given number of octets of this line. -/
def Cursor.skip (c : Cursor) (n : Nat) : Cursor := ⟨c.rest.drop n, c.line, c.column + n⟩

/-- The greatest whole number that is kept exactly. -/
def greatestNatural : Nat := Nat.pow 2 64 - 1

/-- Appends digits to a significand as long as it stays a natural of 64 bits; also gives the
digits left over. -/
def absorb (significand : Nat) : List Nat → Nat × List Nat
  | [] => (significand, [])
  | d :: rest =>
    if significand * 10 + d ≤ greatestNatural then absorb (significand * 10 + d) rest
    else (significand, d :: rest)

/-- `10 ^ n` for `n ≤ 308`. -/
def powerOfTen (n : Nat) : Binary64 :=
  (Binary64.ofQuotient false (Nat.pow 10 n) 1).getD (Binary64.zero false)

/-- `x * 10 ^ exponent` by multiplications and divisions with powers up to the 308th, each of
them rounded; `none` when it is too great. -/
def scale (x : Binary64) (exponent : Int) : Nat → Option Binary64
  | 0 => some x
  | fuel + 1 =>
    if exponent.natAbs ≤ 308 then
      if 0 ≤ exponent then x.timesPositive (powerOfTen exponent.natAbs)
      else x.overPositive (powerOfTen exponent.natAbs)
    else if x.isZero then some x
    else if 0 ≤ exponent then none
    else
      match x.overPositive (powerOfTen 308) with
      | none => none
      | some y => scale y (exponent + 308) fuel

/-- The double `significand * 10 ^ exponent`, at a cursor after the number. -/
def double (positive : Bool) (significand : Nat) (exponent : Int) (c : Cursor) :
    Except Error (Number × Cursor) :=
  match (Binary64.ofNat significand).bind fun x => scale x exponent (exponent.natAbs + 1) with
  | none => c.fail .numberOutOfRange
  | some x => .ok (.double { x with negative := !positive }, c)

/-- The greatest exponent that is read exactly. -/
def greatestExponent : Nat := Nat.pow 2 31 - 1

/-- Appends digits to an exponent until it grows beyond `greatestExponent`; also gives the number
of digits taken, the one that was too many included, and whether there was one. -/
def absorbExponent (exponent : Nat) : List Nat → Nat × Nat × Bool
  | [] => (exponent, 0, false)
  | d :: rest =>
    if exponent * 10 + d ≤ greatestExponent then
      let (e, taken, tooGreat) := absorbExponent (exponent * 10 + d) rest
      (e, taken + 1, tooGreat)
    else (exponent, 1, true)

/-- The exponent of a number, at the letter that starts it. -/
def exponentPart (positive : Bool) (significand : Nat) (exponent : Int) (c : Cursor) :
    Except Error (Number × Cursor) :=
  let c := c.advance
  let (raises, c) : Bool × Cursor :=
    match c.peek with
    | some 0x2B => (true, c.advance)
    | some 0x2D => (false, c.advance)
    | _ => (true, c)
  match c.peek with
  | none => c.fail .endInValue
  | some b =>
    if !isDigit b then c.failNext .invalidNumber
    else
      let (e, taken, tooGreat) := absorbExponent 0 c.digits
      if tooGreat then
        if significand != 0 && raises then (c.skip taken).fail .numberOutOfRange
        else .ok (.double (Binary64.zero !positive), c.skip c.digits.length)
      else
        double positive significand (if raises then exponent + e else exponent - e) (c.skip taken)

/-- The rest of a number after all digits of its fraction or, without a fraction, of its whole
part. -/
def afterDigits (positive : Bool) (significand : Nat) (exponent : Int) (c : Cursor) :
    Except Error (Number × Cursor) :=
  match c.peek with
  | some 0x65 | some 0x45 => exponentPart positive significand exponent c
  | _ => double positive significand exponent c

/-- The fraction of a number, at its point. -/
def fractionPart (positive : Bool) (significand : Nat) (exponent : Int) (c : Cursor) :
    Except Error (Number × Cursor) :=
  let c := c.advance
  let digits := c.digits
  if digits.isEmpty then
    match c.peek with
    | some _ => c.failNext .invalidNumber
    | none => c.fail .endInValue
  else
    let (significand, left) := absorb significand digits
    afterDigits positive significand (exponent - (digits.length - left.length : Nat))
      (c.skip digits.length)

/-- A whole number that fits 64 bits; a negative zero is a double. -/
def whole (positive : Bool) (significand : Nat) : Number :=
  if positive then .natural significand
  else if 0 < significand ∧ significand ≤ Nat.pow 2 63 then .negative significand
  else .double { (Binary64.ofNat significand).getD (Binary64.zero true) with negative := true }

/-- A number after its sign. -/
def numberAfterSign (positive : Bool) (c : Cursor) : Except Error (Number × Cursor) :=
  match c.peek with
  | none => c.fail .endInValue
  | some b =>
    if !isDigit b then c.failNext .invalidNumber
    else if b == 0x30 && 1 < c.digits.length then c.advance.failNext .invalidNumber
    else
      let digits := c.digits
      let (significand, left) := absorb 0 digits
      let after := c.skip digits.length
      match after.peek with
      | some 0x2E => fractionPart positive significand left.length after
      | some 0x65 | some 0x45 => exponentPart positive significand left.length after
      | _ =>
        if left.isEmpty then .ok (whole positive significand, after)
        else double positive significand left.length after

/-- Reads over the digits that come next. -/
def Cursor.skipDigits (c : Cursor) : Cursor := c.skip c.digits.length

/-- Reads over an exponent, at the letter that starts it. -/
def skipExponent (c : Cursor) : Except Error Cursor :=
  let c := c.advance
  let c :=
    match c.peek with
    | some 0x2B | some 0x2D => c.advance
    | _ => c
  match c.peek with
  | none => c.fail .invalidNumber
  | some b => if isDigit b then .ok c.skipDigits else c.failNext .invalidNumber

/-- Reads over the exponent, if there is one. -/
def skipOptionalExponent (c : Cursor) : Except Error Cursor :=
  match c.peek with
  | some 0x65 | some 0x45 => skipExponent c
  | _ => .ok c

/-- Reads over a number after its sign. -/
def skipNumber (c : Cursor) : Except Error Cursor :=
  match c.peek with
  | none => c.fail .invalidNumber
  | some b =>
    if !isDigit b then c.failNext .invalidNumber
    else if b == 0x30 && 1 < c.digits.length then c.advance.failNext .invalidNumber
    else
      let c := c.skipDigits
      match c.peek with
      | some 0x2E =>
        let c := c.advance
        if c.digits.isEmpty then c.failNext .invalidNumber
        else skipOptionalExponent c.skipDigits
      | _ => skipOptionalExponent c

end BindingCoverage.Json
