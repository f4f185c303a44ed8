/-!
# Finite binary64 numbers

A finite binary64 number is a sign and `mantissa * 2 ^ exponent`, with `mantissa < 2 ^ 53` and
`-1074 ≤ exponent ≤ 971`. All arithmetic here is exact arithmetic on natural numbers followed by
one rounding to the nearest number, ties to the even mantissa; a result beyond the greatest
number is `none`.
-/

namespace BindingCoverage

/-- A finite binary64 number. -/
structure Binary64 where
  negative : Bool
  mantissa : Nat
  exponent : Int
  deriving DecidableEq, Repr

namespace Binary64

/-- The least exponent: that of the subnormal numbers. -/
def leastExponent : Int := -1074

/-- The greatest exponent. -/
def greatestExponent : Int := 971

def zero (negative : Bool) : Binary64 := ⟨negative, 0, leastExponent⟩

/-- `numerator / denominator * 2 ^ (-shift)`, as a quotient of naturals. -/
def shifted (numerator denominator : Nat) (shift : Int) : Nat × Nat :=
  match shift with
  | .ofNat n => (numerator, denominator * Nat.pow 2 n)
  | .negSucc n => (numerator * Nat.pow 2 (n + 1), denominator)

/-- The natural number nearest to a quotient, ties to even. -/
def roundQuotient (numerator denominator : Nat) : Nat :=
  let quotient := numerator / denominator
  let rest := numerator % denominator
  if 2 * rest < denominator then quotient
  else if denominator < 2 * rest then quotient + 1
  else if quotient % 2 = 0 then quotient else quotient + 1

/-- The exponent at which the quotient has a mantissa of 53 bits, or the least exponent. -/
def exponentOf (numerator denominator : Nat) : Int :=
  let guess : Int := (numerator.log2 : Int) - denominator.log2 - 52
  let (n, d) := shifted numerator denominator guess
  max leastExponent (if n < d * Nat.pow 2 52 then guess - 1 else guess)

/-- The number nearest to `numerator / denominator` (`denominator ≠ 0`). -/
def ofQuotient (negative : Bool) (numerator denominator : Nat) : Option Binary64 :=
  if numerator = 0 then some (zero negative)
  else
    let exponent := exponentOf numerator denominator
    let (n, d) := shifted numerator denominator exponent
    let mantissa := roundQuotient n d
    let (mantissa, exponent) :=
      if mantissa = Nat.pow 2 53 then (Nat.pow 2 52, exponent + 1) else (mantissa, exponent)
    if greatestExponent < exponent then none else some ⟨negative, mantissa, exponent⟩

/-- The magnitude as a quotient of naturals. -/
def quotient (x : Binary64) : Nat × Nat :=
  match x.exponent with
  | .ofNat n => (x.mantissa * Nat.pow 2 n, 1)
  | .negSucc n => (x.mantissa, Nat.pow 2 (n + 1))

def isZero (x : Binary64) : Bool := x.mantissa == 0

def neg (x : Binary64) : Binary64 := { x with negative := !x.negative }

/-- The magnitude of the product, rounded, with the sign of the first factor. -/
def timesPositive (x y : Binary64) : Option Binary64 :=
  let (a, b) := x.quotient
  let (c, d) := y.quotient
  ofQuotient x.negative (a * c) (b * d)

/-- The magnitude of the quotient, rounded, with the sign of the dividend. -/
def overPositive (x y : Binary64) : Option Binary64 :=
  let (a, b) := x.quotient
  let (c, d) := y.quotient
  ofQuotient x.negative (a * d) (b * c)

/-- The number nearest to a natural number. -/
def ofNat (n : Nat) : Option Binary64 := ofQuotient false n 1

end Binary64

end BindingCoverage
