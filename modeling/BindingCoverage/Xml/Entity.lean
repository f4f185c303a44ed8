import BindingCoverage.Xml.Attribute

/-!
# References in values

* `unescape`: the text of a value with its references replaced. A reference runs from an ampersand
  to the next semicolon, with no other ampersand between them.
* `escape`: a text as a value in double quotes.

Offsets count octets of the value.
-/

namespace BindingCoverage.Xml

/-- The character that a name between ampersand and semicolon stands for. -/
def entity? (name : List Char) : Option Char :=
  if name = "lt".toList then some '<'
  else if name = "gt".toList then some '>'
  else if name = "amp".toList then some '&'
  else if name = "apos".toList then some '\''
  else if name = "quot".toList then some '"'
  else none

/-- The value of a digit, if it is one in the given base. -/
def digit? (base : Nat) (c : Char) : Option Nat :=
  let value? :=
    if '0' ≤ c ∧ c ≤ '9' then some (c.toNat - '0'.toNat)
    else if 'a' ≤ c ∧ c ≤ 'z' then some (c.toNat - 'a'.toNat + 10)
    else if 'A' ≤ c ∧ c ≤ 'Z' then some (c.toNat - 'A'.toNat + 10)
    else none
  value?.filter (· < base)

/-- A number of at most 32 bits, `value` standing for the digits before these. A digit that is none
is noticed before the number grows too large. -/
def codeFrom (base : Nat) (value : Nat) : List Char → Except ReferenceError Nat
  | [] => .ok value
  | c :: rest =>
    match digit? base c with
    | none => .error .invalidDigit
    | some d =>
      if value * base + d < Nat.pow 2 32 then codeFrom base (value * base + d) rest
      else .error .tooLarge

def code (base : Nat) (digits : List Char) : Except ReferenceError Nat :=
  match digits with
  | [] => .error .empty
  | c :: _ => if c = '+' ∨ c = '-' then .error .signed else codeFrom base 0 digits

/-- The character with the given code. -/
def characterOf (code : Nat) : Except ReferenceError Char :=
  if code = 0 then .error .zero
  else if code.isValidChar then .ok (Char.ofNat code)
  else .error (.noCodePoint code)

/-- The character of a reference, from what stands between its number sign and its semicolon. -/
def reference (text : List Char) : Except ReferenceError Char :=
  match text with
  | 'x' :: digits => do characterOf (← code 16 digits)
  | digits => do characterOf (← code 10 digits)

/-- The number of octets of a text. -/
def octetCount (cs : List Char) : Nat := cs.foldr (fun c n => c.utf8Size + n) 0

/-- The character that a reference stands for, from what stands between its ampersand, which is at
`offset`, and its semicolon. -/
def resolve (offset : Nat) (name : List Char) : Except EscapeError Char :=
  match name with
  | '#' :: text => (reference text).mapError .reference
  | _ =>
    match entity? name with
    | some c => .ok c
    | none =>
      .error (.unknownEntity (offset + 1) (offset + 1 + octetCount name) (String.ofList name))

/-- The text from `offset` on. While a reference is being read, `name` holds what stands after its
ampersand, last character first, and `amp` is the offset of the ampersand. -/
def unescapeFrom (offset : Nat) : Option (Nat × List Char) → List Char →
    Except EscapeError (List Char)
  | none, [] => .ok []
  | none, c :: rest =>
    if c = '&' then unescapeFrom (offset + 1) (some (offset, [])) rest
    else (c :: ·) <$> unescapeFrom (offset + c.utf8Size) none rest
  | some (amp, _), [] => .error (.unterminated amp offset)
  | some (amp, name), c :: rest =>
    if c = '&' then .error (.unterminated amp (offset + octetCount (c :: rest)))
    else if c = ';' then
      match resolve amp name.reverse with
      | .ok d => (d :: ·) <$> unescapeFrom (offset + 1) none rest
      | .error e => .error e
    else unescapeFrom (offset + c.utf8Size) (some (amp, c :: name)) rest

def unescape (s : String) : Except EscapeError String :=
  String.ofList <$> unescapeFrom 0 none s.toList

/-- The text of a value. -/
def Attribute.text (a : Attribute) : Except Error String :=
  match Utf8.decode a.value with
  | .error fault => .error (.encoding fault)
  | .ok s => (unescape s).mapError .escape

/-! ## Writing -/

def escapeChar (c : Char) : List Char :=
  if c = '&' then "&amp;".toList
  else if c = '<' then "&lt;".toList
  else if c = '>' then "&gt;".toList
  else if c = '"' then "&quot;".toList
  else [c]

/-- A text as it stands between double quotes. -/
def escape (s : String) : String := String.ofList (s.toList.flatMap escapeChar)

end BindingCoverage.Xml
