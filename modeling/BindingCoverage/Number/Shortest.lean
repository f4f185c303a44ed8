import BindingCoverage.Number.Binary64

/-!
# Shortest decimals

`Binary64.shortest` gives the fewest decimal digits that read back as the same number, and among
those digits the nearest to it. A `DecimalLayout` says how such digits are written.

A decimal reads back as `x` when it lies between the midpoints to the neighbours of `x`; the
midpoints themselves count when the mantissa of `x` is even, since ties go to even. If a point of
the grid of `n`-digit decimals lies there, so does one of the two grid points next to `x`.
-/

namespace BindingCoverage

namespace Binary64

/-- Four times a magnitude, and four times the two ends of what reads back as it, all over one
denominator. -/
structure Interval where
  value : Nat
  low : Nat
  high : Nat
  denominator : Nat
  /-- The ends themselves read back. -/
  closed : Bool

/-- The interval that rounds to `x`. Just above a power of two the gap below is half as wide. -/
def interval (x : Binary64) : Interval :=
  let m := x.mantissa
  let narrow := m = Nat.pow 2 52 ∧ leastExponent < x.exponent
  let (scale, denominator) : Nat × Nat :=
    match x.exponent with
    | .ofNat n => (Nat.pow 2 n, 4)
    | .negSucc n => (1, 4 * Nat.pow 2 (n + 1))
  { value := 4 * m * scale
    low := (4 * m - if narrow then 1 else 2) * scale
    high := (4 * m + 2) * scale
    denominator
    closed := m % 2 = 0 }

/-- `n / d` lies in the interval. -/
def Interval.contains (i : Interval) (n d : Nat) : Bool :=
  let point := n * i.denominator
  if i.closed then i.low * d ≤ point && point ≤ i.high * d
  else i.low * d < point && point < i.high * d

/-- The number of digits before the decimal point: the least `p` with `value < 10 ^ p`, where
`value` is `numerator / denominator`; negative or zero for values below one tenth. Starts at a
guess and moves to the answer in at most `fuel` moves. -/
def pointOf (numerator denominator : Nat) : Nat → Int → Int
  | 0, guess => guess
  | fuel + 1, guess =>
    let below (p : Int) : Bool :=
      match p with
      | .ofNat n => numerator < denominator * Nat.pow 10 n
      | .negSucc n => numerator * Nat.pow 10 (n + 1) < denominator
    if !below guess then pointOf numerator denominator fuel (guess + 1)
    else if below (guess - 1) then pointOf numerator denominator fuel (guess - 1)
    else guess

/-- Digits of a decimal fraction: the value is `0.digits * 10 ^ point`, so `point` is the place of
the decimal point counted from before the first digit. -/
structure Digits where
  digits : List Char
  point : Int
  deriving DecidableEq, Repr

/-- The decimal with `count` digits next to the value that reads back, if there is one. -/
def onGrid (i : Interval) (point : Int) (count : Nat) : Option Digits :=
  let power : Int := point - count
  -- The grid unit is `unit / unitDenominator`.
  let (unit, unitDenominator) : Nat × Nat :=
    match power with
    | .ofNat n => (Nat.pow 10 n, 1)
    | .negSucc n => (1, Nat.pow 10 (n + 1))
  let scaled := i.value * unitDenominator
  let step := i.denominator * unit
  let below := scaled / step
  let rest := scaled % step
  let inside (n : Nat) : Bool := i.contains (n * unit) unitDenominator
  let answer (n : Nat) : Option Digits :=
    let text := Nat.toDigits 10 n
    some ⟨text, power + text.length⟩
  match inside below && below != 0, inside (below + 1) with
  | true, true =>
    if 2 * rest < step then answer below
    else if step < 2 * rest then answer (below + 1)
    else if below % 2 = 0 then answer below else answer (below + 1)
  | true, false => answer below
  | false, true => answer (below + 1)
  | false, false => none

/-- The fewest digits that read back as the magnitude of `x`; a single zero for zero. -/
def shortest (x : Binary64) : Digits :=
  if x.isZero then ⟨['0'], 1⟩
  else
    let i := x.interval
    let bits : Int := (i.value.log2 : Int) - i.denominator.log2
    let point := pointOf i.value i.denominator 8 (bits * 30103 / 100000 + 1)
    let found := (List.range 17).findSome? fun n => onGrid i point (n + 1)
    let digits := found.getD ⟨['0'], 1⟩
    -- A decimal like 10 stands for the shorter 1.
    { digits with
      digits := (digits.digits.reverse.dropWhile (· == '0')).reverse }

end Binary64

/-- How shortest digits are written. -/
structure DecimalLayout where
  /-- Numbers whose point lies above this place are written with an exponent. -/
  greatestPoint : Int
  /-- Numbers whose point lies below this place are written with an exponent. -/
  leastPoint : Int
  /-- A number written without an exponent always has a fraction, if only `.0`. -/
  keepFraction : Bool
  /-- Separates the digits from the exponent. -/
  exponentMark : String
  /-- A positive exponent carries a plus sign. -/
  signPositive : Bool

/-- Writes digits with the decimal point at its place. -/
def DecimalLayout.positional (layout : DecimalLayout) (d : Binary64.Digits) : List Char :=
  if d.point ≤ 0 then
    ['0', '.'] ++ List.replicate d.point.natAbs '0' ++ d.digits
  else
    let whole := d.point.toNat
    let fraction := d.digits.drop whole
    d.digits.take whole ++ List.replicate (whole - d.digits.length) '0' ++
      (if !fraction.isEmpty then '.' :: fraction
       else if layout.keepFraction then ['.', '0'] else [])

/-- Writes digits with one digit before the point and an exponent. -/
def DecimalLayout.scientific (layout : DecimalLayout) (d : Binary64.Digits) : List Char :=
  let exponent := d.point - 1
  d.digits.take 1 ++
    (if d.digits.length ≤ 1 then [] else '.' :: d.digits.drop 1) ++
    layout.exponentMark.toList ++
    (if exponent < 0 then ['-'] else if layout.signPositive then ['+'] else []) ++
    Nat.toDigits 10 exponent.natAbs

def DecimalLayout.write (layout : DecimalLayout) (x : Binary64) : String :=
  let d := x.shortest
  String.ofList <|
    (if x.negative then ['-'] else []) ++
      if layout.leastPoint ≤ d.point ∧ d.point ≤ layout.greatestPoint then layout.positional d
      else layout.scientific d

end BindingCoverage
