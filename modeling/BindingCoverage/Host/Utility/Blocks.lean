import BindingCoverage.Host.Utility.Copying

/-!
# Blocks

Programs that take files in blocks of a fixed size: `dd` copies them, and `od` shows what is in
them.
-/

namespace BindingCoverage.Host.Utility

/-! ## dd -/

/-- A number with its units, or several ones with `x` between them, which are multiplied. -/
def blockNumber? (text : String) : Option Nat :=
  (splitAt 'x' [] text.toList).foldlM (fun n part => do
    let digits := part.takeWhile Char.isDigit
    if digits.isEmpty then none
    let factor ←
      match String.ofList (part.drop digits.length) with
      | "" | "c" => some 1
      | "w" => some 2
      | "b" => some 512
      | suffix => factor? suffix
    return n * valueIn 10 digits * factor) 1

structure Copy where
  input : Option String := none
  output : Option String := none
  inputSize : Nat := 512
  outputSize : Nat := 512
  /-- Whether blocks are written in the sizes in which they were read. -/
  keepsBlocks : Bool := false
  count : Option Nat := none
  skip : Nat := 0
  seek : Nat := 0
  conversions : List String := []
  status : String := ""

/-- The conversions of data, and how the output is opened. -/
def conversionNames : List String := [
  "ucase", "lcase", "swab", "sync", "notrunc", "noerror", "fsync", "fdatasync", "excl", "nocreat"]

/-- What one operand says; the text of a fault has its own ending. -/
def copyOperand (c : Copy) (operand : String) : Except (String × Bool) Copy := do
  let name := String.ofList (operand.toList.takeWhile (· != '='))
  let value := String.ofList (operand.toList.drop (name.length + 1))
  let number : Except (String × Bool) Nat :=
    match blockNumber? value with
    | some n => .ok n
    | none => .error (s!"invalid number: '{value}'", false)
  let size : Except (String × Bool) Nat := do
    let n ← number
    if n = 0 then throw (s!"invalid number: '{value}'", false)
    return n
  let names := (splitAt ',' [] value.toList).map String.ofList
  if name.length = operand.length then throw (s!"unrecognized operand '{operand}'", true)
  match name with
  | "if" => return { c with input := some value }
  | "of" => return { c with output := some value }
  | "bs" => do
    let n ← size
    return { c with inputSize := n, outputSize := n, keepsBlocks := true }
  | "ibs" => return { c with inputSize := ← size }
  | "obs" => return { c with outputSize := ← size }
  | "cbs" => do
    discard size
    return c
  | "count" => return { c with count := some (← number) }
  | "skip" | "iseek" => return { c with skip := ← number }
  | "seek" | "oseek" => return { c with seek := ← number }
  | "conv" =>
    match names.find? (!conversionNames.contains ·) with
    | some unknown => throw (s!"invalid conversion: '{unknown}'", true)
    | none => return { c with conversions := c.conversions ++ names }
  | "status" =>
    if ["none", "noxfer", "progress"].contains value then return { c with status := value }
    else throw (s!"invalid status level: '{value}'", true)
  | "iflag" | "oflag" => return c
  | _ => throw (s!"unrecognized operand '{operand}'", true)

/-- Pairs of characters in the other order. -/
def swapped : List Char → List Char
  | a :: b :: rest => b :: a :: swapped rest
  | cs => cs

namespace Copy

/-- A block after the conversions. -/
def converted (c : Copy) (block : String) : String :=
  let has (name : String) : Bool := c.conversions.contains name
  let cs := block.toList
  let cs := if has "swab" then swapped cs else cs
  let cs :=
    if has "ucase" then cs.map Char.toUpper else if has "lcase" then cs.map Char.toLower else cs
  String.ofList (if has "sync" then cs ++ List.replicate (c.inputSize - cs.length) '\x00' else cs)

end Copy

/-- How many whole blocks there were, and how many others. -/
structure Records where
  whole : Nat := 0
  other : Nat := 0

namespace Records

def add (r : Records) (size : Nat) (block : String) : Records :=
  if block.length = size then { r with whole := r.whole + 1 } else { r with other := r.other + 1 }

def text (r : Records) (kind : String) : String := s!"{r.whole}+{r.other} records {kind}\n"

end Records

/-- What a copy has done. -/
structure Copied where
  input : Records := {}
  output : Records := {}
  octets : Nat := 0
  /-- What was read and is not written yet. -/
  pending : String := ""

/-- The pieces of a size, and what is left. -/
def piecesOf (size : Nat) : Nat → List Char → List String → List String × String
  | 0, cs, done => (done.reverse, String.ofList cs)
  | fuel + 1, cs, done =>
    if cs.length < size then (done.reverse, String.ofList cs)
    else piecesOf size fuel (cs.drop size) (String.ofList (cs.take size) :: done)

/-- Writes a block that was read, or the parts of it that make whole blocks with what is pending. -/
def writeBlock (k : Copy) (d : Nat) (s : Copied) (block : String) :
    Program (Except SystemError Copied) := do
  let block := k.converted block
  let (pieces, pending) :=
    if k.keepsBlocks then ([block], "")
    else piecesOf k.outputSize (s.pending.length + block.length) (s.pending ++ block).toList []
  let mut s := { s with pending }
  for piece in pieces do
    match ← Program.write d piece with
    | .error e => return .error e
    | .ok () =>
      s := { s with output := s.output.add k.outputSize piece, octets := s.octets + piece.length }
  return .ok s

/-- Reads and writes blocks up to the end, or as many as are wanted. -/
def copyBlocks (c : Call) (k : Copy) (source target : Nat) : Program (Copied × Bool) := do
  let inputName := k.input.getD "standard input"
  let outputName := k.output.getD "standard output"
  Program.loop ({}, 0) fun (s, n) => do
    if k.count.any (· ≤ n) then return .inr (s, true)
    match ← Program.ask (.read source k.inputSize) with
    | .ok "" => return .inr (s, true)
    | .error e => do
      c.complain s!"error reading '{inputName}': {errorText e}"
      return .inr (s, false)
    | .ok block => do
      match ← writeBlock k target { s with input := s.input.add k.inputSize block } block with
      | .ok s => return .inl (s, n + 1)
      | .error e => do
        c.complain s!"error writing '{outputName}': {errorText e}"
        return .inr (s, false)

/-- Reads over blocks. -/
def skipBlocks (d size : Nat) : Nat → Program Unit
  | 0 => return
  | n + 1 => do
    match ← Program.ask (.read d size) with
    | .ok "" | .error _ => return
    | .ok _ => skipBlocks d size n

/-- The descriptor of a file. -/
def openedFor (c : Call) (name : String) (opening : Opening) : Program Nat := do
  match ← Program.ask (.openFile name opening) with
  | .ok d => return d
  | .error e => do
    c.complain s!"failed to open '{name}': {errorText e}"
    Program.exit 1

def dd : Routine := fun c => do
  let k ←
    match c.arguments.foldlM copyOperand ({} : Copy) with
    | .ok k => pure k
    | .error (text, isMisuse) => do
      if isMisuse then c.misused text else c.complain text
      Program.exit 1
  let keepsRest := k.conversions.contains "notrunc"
  let source ← match k.input with
    | some path => openedFor c path { reads := true }
    | none => pure 0
  let old ← match k.output with
    | some path =>
      if keepsRest || 0 < k.seek then do pure ((← readInput path).toOption.getD "") else pure ""
    | none => pure ""
  let target ← match k.output with
    | some path => openedFor c path { writes := true, creates := true, empties := true }
    | none => pure 1
  skipBlocks source k.inputSize k.skip
  let start := k.seek * k.outputSize
  if 0 < start && k.output.isSome then
    let kept := old.toList.take start
    discard (Program.write target
      (String.ofList (kept ++ List.replicate (start - kept.length) '\x00')))
  let (s, isFine) ← copyBlocks c k source target
  let s ← if s.pending.isEmpty then pure s else do
    discard (Program.write target s.pending)
    pure { s with
      output := { s.output with other := s.output.other + 1 }
      octets := s.octets + s.pending.length }
  if keepsRest then
    discard (Program.write target (String.ofList (old.toList.drop (start + s.octets))))
  if k.status ≠ "none" then say (s.input.text "in" ++ s.output.text "out")
  if k.status ≠ "none" && k.status ≠ "noxfer" then
    say s!"{s.octets} bytes copied, 0 s, Infinity B/s\n"
  return if isFine then 0 else 1

/-! ## od -/

/-- How octets are shown. -/
inductive Form where
  | named
  | character
  | signed
  | unsigned
  | octal
  | hexadecimal
  deriving DecidableEq, Repr

/-- A form for so many octets together. -/
structure Display where
  form : Form
  size : Nat
  /-- Whether the characters come after the line as well. -/
  hasText : Bool := false
  deriving DecidableEq, Repr

namespace Display

/-- The greatest number of digits of a number. -/
def digits (base size : Nat) : Nat := (Nat.toDigits base (Nat.pow 256 size - 1)).length

/-- How wide the longest text is. -/
def width (d : Display) : Nat :=
  match d.form with
  | .named | .character => 3
  | .signed => (Nat.toDigits 10 (Nat.pow 256 d.size / 2)).length + 1
  | .unsigned => digits 10 d.size
  | .octal => digits 8 d.size
  | .hexadecimal => digits 16 d.size

/-- The names of the characters that are not shown, by their codes. -/
def controlNames : List String := [
  "nul", "soh", "stx", "etx", "eot", "enq", "ack", "bel", "bs", "ht", "nl", "vt", "ff", "cr", "so",
  "si", "dle", "dc1", "dc2", "dc3", "dc4", "nak", "syn", "etb", "can", "em", "sub", "esc", "fs",
  "gs", "rs", "us", "sp"]

def zeroFilled (width base n : Nat) : String :=
  let digits := String.ofList (Nat.toDigits base n)
  Format.repeated (width - digits.length) '0' ++ digits

def characterText (c : Char) : String :=
  match c with
  | '\x00' => "\\0"
  | '\x07' => "\\a"
  | '\x08' => "\\b"
  | '\x0c' => "\\f"
  | '\n' => "\\n"
  | '\r' => "\\r"
  | '\t' => "\\t"
  | '\x0b' => "\\v"
  | c => if ' ' ≤ c && c ≤ '~' then String.singleton c else zeroFilled 3 8 c.toNat

/-- The text of some octets, of which the last one counts most. -/
def text (d : Display) (octets : List Char) : String :=
  let n := octets.foldr (fun c n => c.toNat + 256 * n) 0
  match d.form with
  | .named =>
    let code := n % 128
    if code = 127 then "del"
    else (controlNames[code]?).getD (String.singleton (Char.ofNat code))
  | .character => characterText (octets.headD '\x00')
  | .signed =>
    let most := Nat.pow 256 d.size
    if n < most / 2 then toString n else s!"-{most - n}"
  | .unsigned => toString n
  | .octal => zeroFilled d.width 8 n
  | .hexadecimal => zeroFilled d.width 16 n

/-- The width that some octets get in a line with several displays. -/
def cell (all : List Display) (d : Display) : Nat :=
  (all.map fun other => (other.width + 1) * d.size / other.size).foldl max 0

/-- The texts of a line. -/
def row (all : List Display) (d : Display) (lineLength : Nat) (line : List Char) : String :=
  let count := (line.length + d.size - 1) / d.size
  let shown := (List.range count).map fun i =>
    let octets := (line.drop (i * d.size)).take d.size
    let whole := octets ++ List.replicate (d.size - octets.length) '\x00'
    let text := d.text whole
    Format.repeated (d.cell all - text.length) ' ' ++ text
  let missing := lineLength / d.size - count
  let after :=
    if d.hasText then
      let visible := line.map fun c => if ' ' ≤ c && c ≤ '~' then c else '.'
      Format.repeated (missing * d.cell all) ' ' ++ "  >" ++ String.ofList visible ++ "<"
    else ""
  String.join shown ++ after

/-- The letter of a form. -/
def form? (c : Char) : Option Form :=
  match c with
  | 'a' => some .named
  | 'c' => some .character
  | 'd' => some .signed
  | 'u' => some .unsigned
  | 'o' => some .octal
  | 'x' => some .hexadecimal
  | _ => none

/-- The size after the letter of a form. -/
def sizeAt (s : List Char) : Nat × List Char :=
  match s with
  | 'C' :: rest => (1, rest)
  | 'S' :: rest => (2, rest)
  | 'I' :: rest => (4, rest)
  | 'L' :: rest => (8, rest)
  | s =>
    let digits := s.takeWhile Char.isDigit
    if digits.isEmpty then (4, s) else (valueIn 10 digits, s.drop digits.length)

/-- The displays of a text like `x1z`. -/
def readAll (whole : String) : Nat → List Char → Except String (List Display)
  | 0, _ | _, [] => .ok []
  | fuel + 1, c :: rest => do
    match form? c with
    | none => throw s!"invalid character '{c}' in type string '{whole}'"
    | some form => do
      let (count, rest) := if form = .named || form = .character then (1, rest) else sizeAt rest
      if !([1, 2, 4, 8].contains count) then
        throw (s!"invalid type string '{whole}';\n" ++
          s!"this system doesn't provide a {count}-byte integral type")
      let (hasText, rest) : Bool × List Char :=
        match rest with
        | 'z' :: rest => (true, rest)
        | rest => (false, rest)
      return ⟨form, count, hasText⟩ :: (← readAll whole fuel rest)

end Display

/-- The displays that an option asks for. -/
def displaysOf (letter : Char) (value : Option String) : Except String (List Display) :=
  match letter with
  | 't' => Display.readAll (value.getD "") (value.getD "").length (value.getD "").toList
  | 'a' => .ok [⟨.named, 1, false⟩]
  | 'b' => .ok [⟨.octal, 1, false⟩]
  | 'c' => .ok [⟨.character, 1, false⟩]
  | 'd' => .ok [⟨.unsigned, 2, false⟩]
  | 'i' => .ok [⟨.signed, 4, false⟩]
  | 'l' => .ok [⟨.signed, 8, false⟩]
  | 'o' => .ok [⟨.octal, 2, false⟩]
  | 's' => .ok [⟨.signed, 2, false⟩]
  | 'x' => .ok [⟨.hexadecimal, 2, false⟩]
  | _ => .ok []

/-- How places are shown. -/
def placeText (radix : Char) (n : Nat) : String :=
  match radix with
  | 'd' => Display.zeroFilled 7 10 n
  | 'x' => Display.zeroFilled 6 16 n
  | 'n' => ""
  | _ => Display.zeroFilled 7 8 n

/-- The lines for a text from a place. Lines that are the same as the one before are not shown. -/
def dumped (displays : List Display) (radix : Char) (length : Nat) (showsAll : Bool) :
    Nat → Nat → Option (List Char × Bool) → List Char → List String
  | 0, place, _, _ | _, place, _, [] =>
    if radix = 'n' then [] else [placeText radix place ++ "\n"]
  | fuel + 1, place, before, s =>
    let line := s.take length
    let next := dumped displays radix length showsAll fuel (place + line.length)
    let isSame := !showsAll && line.length = length && before.any (·.1 == line)
    if isSame then
      let wasSame := before.any (·.2)
      (if wasSame then [] else ["*\n"]) ++ next (some (line, true)) (s.drop length)
    else
      let start := placeText radix place
      let rows := displays.zipIdx.map fun (d, i) =>
        (if i = 0 then start else Format.repeated start.length ' ') ++
          d.row displays length line ++ "\n"
      rows ++ next (some (line, false)) (s.drop length)

def odOptions : List Known := [
  { letter := 'A', takes := .argument, names := ["address-radix"] },
  { letter := 'j', takes := .argument, names := ["skip-bytes"] },
  { letter := 'N', takes := .argument, names := ["read-bytes"] },
  { letter := 't', takes := .argument, names := ["format"] },
  { letter := 'w', takes := .maybe, names := ["width"] },
  { letter := 'v', names := ["output-duplicates"] },
  { letter := 'a' }, { letter := 'b' }, { letter := 'c' }, { letter := 'd' }, { letter := 'i' },
  { letter := 'l' }, { letter := 'o' }, { letter := 's' }, { letter := 'x' }]

def od : Routine := fun c => do
  let o ← c.options odOptions 1 false
  let displays ←
    match o.given.mapM fun (letter, value) => displaysOf letter value with
    | .ok all => pure all.flatten
    | .error text => do
      c.complain text
      Program.exit 1
  let displays := if displays.isEmpty then [⟨.octal, 2, false⟩] else displays
  let number (letter : Char) : Program (Option Nat) := do
    match o.value? letter with
    | none => return none
    | some text =>
      match amount? text.toList with
      | some n => return some n
      | none => do
        c.complain s!"invalid -{letter} argument '{text}'"
        Program.exit 1
  let skip := (← number 'j').getD 0
  let most ← number 'N'
  let width ← number 'w'
  let length := if o.has 'w' then width.getD 32 else 16
  let radix := ((o.value? 'A').bind (·.toList.head?)).getD 'o'
  if !(['d', 'o', 'x', 'n'].contains radix) then
    c.complain s!"invalid output address radix '{radix}'; it must be one character from [doxn]"
    return 1
  let mut status := 0
  let mut parts : List String := []
  for path in inputsOf o do
    match ← readInput path with
    | .ok text => parts := parts ++ [text]
    | .error (_, e) =>
      c.complain s!"{path}: {errorText e}"
      status := 1
  if parts.isEmpty then return status
  let all := (String.join parts).toList
  if all.length < skip then
    c.complain "cannot skip past end of combined input"
    return 1
  let s := all.drop skip
  let s := match most with
    | some n => s.take n
    | none => s
  c.print
    (String.join (dumped displays radix (max 1 length) (o.has 'v') (s.length + 1) skip none s))
  return status

end BindingCoverage.Host.Utility
