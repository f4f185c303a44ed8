/-!
# Numbers in texts

Whole numbers at the start of a text, with their signs, in the base that is asked for or in the one
that their first digits say: a number after `0x` is hexadecimal, another one after `0` octal.
Numbers that do not fit into 64 bits are the greatest or the least that do.
-/

namespace BindingCoverage.Host

def isSpace (c : Char) : Bool := c == ' ' || ('\t' ≤ c && c ≤ '\r')

/-- The value of a digit in any base up to 36. -/
def digitValue? (c : Char) : Option Nat :=
  if c.isDigit then some (c.toNat - '0'.toNat)
  else if 'a' ≤ c && c ≤ 'z' then some (c.toNat - 'a'.toNat + 10)
  else if 'A' ≤ c && c ≤ 'Z' then some (c.toNat - 'A'.toNat + 10)
  else none

def isDigitIn (base : Nat) (c : Char) : Bool := (digitValue? c).any (· < base)

/-- The number that digits write. -/
def valueIn (base : Nat) (digits : List Char) : Nat :=
  digits.foldl (fun n d => n * base + (digitValue? d).getD 0) 0

def greatestNumber : Int := 9223372036854775807

def leastNumber : Int := -9223372036854775808

/-- A number at the start of a text. -/
structure LeadingNumber where
  value : Int
  rest : List Char
  /-- Whether it fits into 64 bits. -/
  fits : Bool
  deriving DecidableEq, Repr

/-- The base of a number and its digits, without what shows the base. -/
def baseOf (base : Option Nat) (s : List Char) : Nat × List Char :=
  match base, s with
  | none, '0' :: x :: c :: rest =>
    if (x == 'x' || x == 'X') && isDigitIn 16 c then (16, c :: rest) else (8, '0' :: x :: c :: rest)
  | none, '0' :: rest => (8, '0' :: rest)
  | none, s => (10, s)
  | some b, s => (b, s)

/-- The number at the start of a text, if there is one. -/
def leadingNumber? (base : Option Nat) (s : List Char) : Option LeadingNumber :=
  let s := s.dropWhile isSpace
  let (isNegative, s) : Bool × List Char :=
    match s with
    | '-' :: rest => (true, rest)
    | '+' :: rest => (false, rest)
    | s => (false, s)
  let (base, s) := baseOf base s
  let digits := s.takeWhile (isDigitIn base)
  if digits.isEmpty then none
  else
    let n : Int := if isNegative then -(valueIn base digits : Int) else valueIn base digits
    some {
      value := max leastNumber (min greatestNumber n)
      rest := s.drop digits.length
      fits := leastNumber ≤ n && n ≤ greatestNumber }

/-- The number that a whole text writes, with blanks around it. In a base of its own a text without
digits writes zero, if it is blank. -/
def number? (base : Option Nat) (s : String) : Option Int :=
  match leadingNumber? base s.toList with
  | some n => if n.fits && n.rest.all isSpace then some n.value else none
  | none => if base.isNone && s.toList.all isSpace then some 0 else none

/-- The natural number that a text of digits writes. -/
def natural? (s : String) : Option Nat :=
  if s.isEmpty || !s.toList.all Char.isDigit then none else some (valueIn 10 s.toList)

end BindingCoverage.Host
