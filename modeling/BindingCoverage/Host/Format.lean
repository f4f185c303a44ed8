import BindingCoverage.Host.Number
import BindingCoverage.Number.Binary64

/-!
# Formatted output

Formats as `printf` understands them: text with escapes, and conversions that say how an argument
is written. A format is used again as long as arguments are left. A missing argument is an empty
text, or zero.
-/

namespace BindingCoverage.Host.Format

/-! ## Escapes -/

def isOctal (c : Char) : Bool := '0' ≤ c && c ≤ '7'

/-- The character that octal digits write, three at most, and what comes after them. -/
def octal (s : List Char) : Char × List Char :=
  let digits := (s.take 3).takeWhile isOctal
  (Char.ofNat (valueIn 8 digits % 256), s.drop digits.length)

/-- The character that a letter after a backslash stands for. -/
def escaped? (c : Char) : Option Char :=
  match c with
  | 'a' => some '\x07'
  | 'b' => some '\x08'
  | 'f' => some '\x0c'
  | 'n' => some '\n'
  | 'r' => some '\r'
  | 't' => some '\t'
  | 'v' => some '\x0b'
  | '\\' => some '\\'
  | _ => none

/-- What only some programs know after a backslash: hexadecimal digits, and some more characters. -/
def richEscape? (s : List Char) : Option (Char × List Char) :=
  match s with
  | 'x' :: rest =>
    let digits := (rest.take 2).takeWhile (isDigitIn 16)
    if digits.isEmpty then none
    else some (Char.ofNat (valueIn 16 digits), rest.drop digits.length)
  | 'e' :: rest => some ('\x1b', rest)
  | '"' :: rest => some ('"', rest)
  | _ => none

/-- What stands after a backslash: the character that both stand for, and the rest. -/
def escape (isRich : Bool) (s : List Char) : Char × List Char :=
  match s, if isRich then richEscape? s else none with
  | _, some found => found
  | [], none => ('\\', [])
  | c :: rest, none =>
    if isOctal c then octal s
    else
      match escaped? c with
      | some d => (d, rest)
      | none => ('\\', s)

/-- A text with its escapes, in which octal numbers may begin with one more zero. It ends at `\c`,
and the second part says that it did. -/
def unescaped (isRich : Bool) (fuel : Nat) (done : List Char) (s : List Char) : String × Bool :=
  match fuel, s with
  | 0, _ | _, [] => (String.ofList done.reverse, false)
  | _ + 1, '\\' :: 'c' :: _ => (String.ofList done.reverse, true)
  | fuel + 1, '\\' :: rest =>
    let rest :=
      match rest with
      | '0' :: d :: more => if isOctal d then d :: more else rest
      | rest => rest
    let (c, rest) := escape isRich rest
    unescaped isRich fuel (c :: done) rest
  | fuel + 1, c :: rest => unescaped isRich fuel (c :: done) rest

/-- A text with its escapes. -/
def unescape (s : String) : String × Bool := unescaped false (s.length + 1) [] s.toList

/-! ## Conversions -/

/-- A width or a precision, which may be an argument. -/
inductive Amount where
  | number (n : Nat)
  | argument
  deriving DecidableEq, Repr

structure Conversion where
  flags : List Char := []
  width : Option Amount := none
  precision : Option Amount := none
  kind : Char
  /-- The conversion as it was written. -/
  text : String
  deriving DecidableEq, Repr

inductive Directive where
  | text (c : Char)
  | convert (c : Conversion)
  /-- A percent sign at the end of the format. -/
  | missing
  deriving DecidableEq, Repr

/-- A width or a precision at the start of a text. -/
def amount? (s : List Char) : Option Amount × List Char :=
  match s with
  | '*' :: rest => (some .argument, rest)
  | s =>
    let digits := s.takeWhile Char.isDigit
    (if digits.isEmpty then none else some (.number (valueIn 10 digits)), s.drop digits.length)

/-- A conversion after its percent sign. -/
def conversion (s : List Char) : Directive × List Char :=
  let flags := s.takeWhile fun c => "#-+ 0".toList.contains c
  let (width, rest) := amount? (s.drop flags.length)
  let (precision, rest) :=
    match rest with
    | '.' :: rest =>
      let (precision, rest) := amount? rest
      (some (precision.getD (.number 0)), rest)
    | rest => (none, rest)
  match rest with
  | [] => (.missing, [])
  | kind :: after =>
    let text := "%" ++ String.ofList (s.take (s.length - after.length))
    (.convert { flags, width, precision, kind, text }, after)

def directivesFrom (isRich : Bool) : Nat → List Char → List Directive
  | 0, _ | _, [] => []
  | fuel + 1, '\\' :: rest =>
    let (c, rest) := escape isRich rest
    .text c :: directivesFrom isRich fuel rest
  | fuel + 1, '%' :: '%' :: rest => .text '%' :: directivesFrom isRich fuel rest
  | fuel + 1, '%' :: rest =>
    let (d, rest) := conversion rest
    d :: directivesFrom isRich fuel rest
  | fuel + 1, c :: rest => .text c :: directivesFrom isRich fuel rest

/-- The directives of a format. -/
def directives (isRich : Bool) (format : String) : List Directive :=
  directivesFrom isRich (format.length + 1) format.toList

/-! ## Writing -/

/-- How a value is set into its field. -/
structure Field where
  width : Nat := 0
  precision : Option Nat := none
  isLeft : Bool := false
  hasZeros : Bool := false
  hasPlus : Bool := false
  hasSpace : Bool := false
  isAlternate : Bool := false
  deriving DecidableEq, Repr

def repeated (n : Nat) (c : Char) : String := String.ofList (List.replicate n c)

/-- A text in its field. -/
def padded (f : Field) (s : String) : String :=
  let missing := repeated (f.width - s.length) ' '
  if f.isLeft then s ++ missing else missing ++ s

/-- A number in its field: zeros come between the sign and the digits. -/
def paddedNumber (f : Field) (zeros : Bool) (sign digits : String) : String :=
  if zeros && f.hasZeros && !f.isLeft then
    sign ++ repeated (f.width - sign.length - digits.length) '0' ++ digits
  else padded f (sign ++ digits)

def signText (f : Field) (isNegative : Bool) : String :=
  if isNegative then "-" else if f.hasPlus then "+" else if f.hasSpace then " " else ""

/-- The digits of a whole number, at least as many as the precision says. -/
def wholeDigits (f : Field) (base : Nat) (isUpper : Bool) (n : Nat) : String :=
  let digits := if n = 0 && f.precision = some 0 then "" else String.ofList (Nat.toDigits base n)
  let digits := if isUpper then digits.toUpper else digits
  repeated (f.precision.getD 1 - digits.length) '0' ++ digits

def signedText (f : Field) (n : Int) : String :=
  paddedNumber f f.precision.isNone (signText f (n < 0)) (wholeDigits f 10 false n.natAbs)

def unsignedText (f : Field) (kind : Char) (n : Nat) : String :=
  match kind with
  | 'o' =>
    let digits := wholeDigits f 8 false n
    let digits := if f.isAlternate && digits.toList.head? != some '0' then "0" ++ digits else digits
    paddedNumber f f.precision.isNone "" digits
  | 'x' | 'X' =>
    let mark := if f.isAlternate && n ≠ 0 then String.ofList ['0', kind] else ""
    paddedNumber f f.precision.isNone mark (wholeDigits f 16 (kind == 'X') n)
  | _ => paddedNumber f f.precision.isNone "" (wholeDigits f 10 false n)

/-! ## Fractions -/

/-- What a text says of a number with a fraction. -/
inductive Real where
  | finite (x : Binary64)
  | infinite (isNegative : Bool)
  | notANumber
  deriving DecidableEq, Repr

/-- The number at the start of a text, and what comes after it. -/
def real? (s : List Char) : Option (Real × List Char) :=
  let s := s.dropWhile isSpace
  let (isNegative, s) : Bool × List Char :=
    match s with
    | '-' :: rest => (true, rest)
    | '+' :: rest => (false, rest)
    | s => (false, s)
  let lower := s.map Char.toLower
  if "infinity".toList.isPrefixOf lower then some (.infinite isNegative, s.drop 8)
  else if "inf".toList.isPrefixOf lower then some (.infinite isNegative, s.drop 3)
  else if "nan".toList.isPrefixOf lower then some (.notANumber, s.drop 3)
  else
    let whole := s.takeWhile Char.isDigit
    let rest := s.drop whole.length
    let (fraction, rest) : List Char × List Char :=
      match rest with
      | '.' :: more =>
        let fraction := more.takeWhile Char.isDigit
        if whole.isEmpty && fraction.isEmpty then ([], rest)
        else (fraction, more.drop fraction.length)
      | rest => ([], rest)
    if whole.isEmpty && fraction.isEmpty then none
    else
      let (power, rest) : Int × List Char :=
        match rest with
        | e :: more =>
          if e = 'e' || e = 'E' then
            match leadingNumber? (some 10) more with
            | some n => if more.head?.any isSpace then (0, rest) else (n.value, n.rest)
            | none => (0, rest)
          else (0, rest)
        | [] => (0, [])
      let digits := valueIn 10 (whole ++ fraction)
      let power := max (-2000) (min 2000 (power - fraction.length))
      let (numerator, denominator) :=
        if 0 ≤ power then (digits * Nat.pow 10 power.toNat, 1)
        else (digits, Nat.pow 10 (-power).toNat)
      match Binary64.ofQuotient isNegative numerator denominator with
      | some x => some (.finite x, rest)
      | none => some (.infinite isNegative, rest)

/-- A quotient with so many decimals, as digits before and after the point. -/
def decimals (places numerator denominator : Nat) : String × String :=
  let scaled := Binary64.roundQuotient (numerator * Nat.pow 10 places) denominator
  let digits := String.ofList (Nat.toDigits 10 scaled)
  let digits := repeated (places + 1 - digits.length) '0' ++ digits
  let cs := digits.toList
  (String.ofList (cs.take (cs.length - places)), String.ofList (cs.drop (cs.length - places)))

/-- The power of ten of the first digit of a quotient that is not zero. -/
def leadingPower (numerator denominator : Nat) : Int :=
  let length (n : Nat) : Nat := (Nat.toDigits 10 n).length
  if denominator ≤ numerator then (length (numerator / denominator) : Int) - 1
  else
    let k := length denominator - length numerator
    if numerator * Nat.pow 10 k < denominator then -((k : Int) + 1) else -(k : Int)

/-- A quotient as a first digit, further digits and a power of ten. -/
def scientific (places numerator denominator : Nat) : String × String × Int :=
  if numerator = 0 then ("0", repeated places '0', 0)
  else
    let power := leadingPower numerator denominator
    let shift : Int := (places : Int) - power
    let (n, d) :=
      if 0 ≤ shift then (numerator * Nat.pow 10 shift.toNat, denominator)
      else (numerator, denominator * Nat.pow 10 (-shift).toNat)
    let scaled := Binary64.roundQuotient n d
    let (scaled, power) :=
      if Nat.pow 10 (places + 1) ≤ scaled then (scaled / 10, power + 1) else (scaled, power)
    let cs := Nat.toDigits 10 scaled
    (String.ofList (cs.take 1), String.ofList (cs.drop 1), power)

def withPoint (f : Field) (whole fraction : String) : String :=
  if fraction.isEmpty && !f.isAlternate then whole else whole ++ "." ++ fraction

def powerText (e : Char) (power : Int) : String :=
  let digits := String.ofList (Nat.toDigits 10 power.natAbs)
  String.singleton e ++ (if power < 0 then "-" else "+") ++ repeated (2 - digits.length) '0' ++
    digits

def withoutZeros (s : String) : String :=
  String.ofList ((s.toList.reverse.dropWhile (· == '0')).reverse)

/-- A number with a fraction, in one of the three ways. -/
def realText (f : Field) (kind : Char) (r : Real) : String :=
  let upper (s : String) : String := if kind.isUpper then s.toUpper else s
  match r with
  | .notANumber => padded f (upper "nan")
  | .infinite isNegative => padded f (signText f isNegative ++ upper "inf")
  | .finite x =>
    let (n, d) := x.quotient
    let sign := signText f x.negative
    let places := f.precision.getD 6
    let e := if kind.isUpper then 'E' else 'e'
    let digits :=
      match kind.toLower with
      | 'f' =>
        let (whole, fraction) := decimals places n d
        withPoint f whole fraction
      | 'e' =>
        let (first, more, power) := scientific places n d
        withPoint f first more ++ powerText e power
      | _ =>
        let places := max 1 places
        let (first, more, power) := scientific (places - 1) n d
        if -4 ≤ power && power < places then
          let (whole, fraction) := decimals ((places : Int) - 1 - power).toNat n d
          withPoint f whole (if f.isAlternate then fraction else withoutZeros fraction)
        else
          withPoint f first (if f.isAlternate then more else withoutZeros more) ++ powerText e power
    paddedNumber f true sign digits

/-! ## Formats with their arguments -/

/-- How the two programs that format differ. -/
structure Dialect where
  /-- Whether more may stand after a backslash. -/
  isRich : Bool := false
  notNumeric : String → String
  notWhole : String → String
  outOfRange : String → String
  invalid : String → String
  missing : String → String

structure State where
  /-- The output, the last part first. -/
  output : List String := []
  arguments : List String
  hasTaken : Bool := false
  /-- What is complained of, the last complaint first. -/
  complaints : List String := []
  /-- What ends the output early. -/
  failure : Option String := none
  isOver : Bool := false

namespace State

def put (s : State) (text : String) : State := { s with output := text :: s.output }

def complain (s : State) (text : String) : State := { s with complaints := text :: s.complaints }

def take (s : State) : Option String × State :=
  match s.arguments with
  | [] => (none, s)
  | a :: rest => (some a, { s with arguments := rest, hasTaken := true })

end State

/-- The complaint about what is left of a number that was read. -/
def leftOver (d : Dialect) (text : String) (rest : List Char) (hasDigits fits : Bool) (s : State) :
    State :=
  if !hasDigits then (if text.isEmpty then s else s.complain (d.notNumeric text))
  else if !rest.isEmpty then s.complain (d.notWhole text)
  else if !fits then s.complain (d.outOfRange text)
  else s

/-- A whole number from the next argument; a quote before a character gives its code. -/
def takeWhole (d : Dialect) (s : State) : Int × State :=
  match s.take with
  | (none, s) => (0, s)
  | (some text, s) =>
    match text.toList with
    | '"' :: rest | '\'' :: rest => ((rest.head?.map fun c => (c.toNat : Int)).getD 0, s)
    | cs =>
      match leadingNumber? none cs with
      | none => (0, leftOver d text cs false true s)
      | some n => (n.value, leftOver d text n.rest true n.fits s)

def greatestUnsigned : Int := 18446744073709551615

/-- A natural number from the next argument; negative numbers wrap around. -/
def takeNatural (d : Dialect) (s : State) : Nat × State :=
  match s.take with
  | (none, s) => (0, s)
  | (some text, s) =>
    match text.toList with
    | '"' :: rest | '\'' :: rest => ((rest.head?.map Char.toNat).getD 0, s)
    | cs =>
      match leadingNumber? none cs with
      | none => (0, leftOver d text cs false true s)
      | some n =>
        let isNegative := (cs.dropWhile isSpace).head? == some '-'
        let whole := wideNumber cs
        let fits := whole.natAbs ≤ greatestUnsigned.toNat
        let value : Int :=
          if !fits then greatestUnsigned
          else if isNegative then (greatestUnsigned + 1 - whole.natAbs) % (greatestUnsigned + 1)
          else whole
        (value.toNat, leftOver d text n.rest true fits s)
where
  /-- The number without the limit of its size. -/
  wideNumber (cs : List Char) : Int :=
    let cs := (cs.dropWhile isSpace).dropWhile fun c => c == '-' || c == '+'
    let (base, digits) := baseOf none cs
    valueIn base (digits.takeWhile (isDigitIn base))

def takeReal (d : Dialect) (s : State) : Real × State :=
  let zero : Real := .finite (Binary64.zero false)
  match s.take with
  | (none, s) => (zero, s)
  | (some text, s) =>
    match text.toList with
    | '"' :: rest | '\'' :: rest =>
      let code := (rest.head?.map Char.toNat).getD 0
      (((Binary64.ofNat code).map .finite).getD zero, s)
    | cs =>
      match real? cs with
      | none => (zero, leftOver d text cs false true s)
      | some (r, rest) => (r, leftOver d text rest true true s)

/-- The width or precision that an amount says; a negative one comes with a flag. -/
def takeAmount (d : Dialect) (a : Option Amount) (s : State) : Option Int × State :=
  match a with
  | none => (none, s)
  | some (.number n) => (some n, s)
  | some .argument =>
    let (n, s) := takeWhole d s
    (some n, s)

/-- The output of one directive. -/
def direct (d : Dialect) (s : State) : Directive → State
  | .text c => s.put (String.singleton c)
  | .missing => { s with failure := some (d.missing "%"), isOver := true }
  | .convert c =>
    let (width, s) := takeAmount d c.width s
    let (precision, s) := takeAmount d c.precision s
    let f : Field := {
      width := (width.getD 0).natAbs
      precision := precision.bind fun p => if p < 0 then none else some p.toNat
      isLeft := c.flags.contains '-' || width.any (· < 0)
      hasZeros := c.flags.contains '0'
      hasPlus := c.flags.contains '+'
      hasSpace := c.flags.contains ' '
      isAlternate := c.flags.contains '#' }
    let cut (text : String) : String :=
      match f.precision with
      | some n => String.ofList (text.toList.take n)
      | none => text
    match c.kind with
    | 's' =>
      let (text, s) := s.take
      s.put (padded f (cut (text.getD "")))
    | 'b' =>
      let (text, s) := s.take
      let text := text.getD ""
      let (text, ends) := unescaped d.isRich (text.length + 1) [] text.toList
      { s.put (padded f (cut text)) with isOver := ends }
    | 'c' =>
      let (text, s) := s.take
      s.put (padded f (String.singleton ((text.getD "").toList.headD '\x00')))
    | 'd' | 'i' =>
      let (n, s) := takeWhole d s
      s.put (signedText f n)
    | 'o' | 'u' | 'x' | 'X' =>
      let (n, s) := takeNatural d s
      s.put (unsignedText f c.kind n)
    | 'e' | 'E' | 'f' | 'F' | 'g' | 'G' =>
      let (r, s) := takeReal d s
      s.put (realText f c.kind r)
    | _ => { s with failure := some (d.invalid c.text), isOver := true }

/-- One pass over the directives. -/
def once (d : Dialect) : List Directive → State → State
  | [], s => s
  | x :: rest, s => if s.isOver then s else once d rest (direct d s x)

/-- The passes over the directives, of which each but the last takes an argument. -/
def passes (d : Dialect) (all : List Directive) : Nat → State → State
  | 0, s => s
  | fuel + 1, s =>
    let s := once d all { s with hasTaken := false }
    if s.isOver || s.arguments.isEmpty || !s.hasTaken then s else passes d all fuel s

/-- What becomes of a format with arguments. -/
def format (d : Dialect) (text : String) (arguments : List String) : State :=
  passes d (directives d.isRich text) (arguments.length + 1) { arguments }

def State.text (s : State) : String := String.join s.output.reverse

end BindingCoverage.Host.Format
