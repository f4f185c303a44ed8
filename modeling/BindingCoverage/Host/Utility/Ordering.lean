import BindingCoverage.Host.CharKind
import BindingCoverage.Host.Utility.Copying

/-!
# Fields, characters and order

Programs that pick parts of lines, replace characters, and put lines in order: `cut`, `tr`, `sort`,
`uniq` and `comm`.
-/

namespace BindingCoverage.Host.Utility

/-! ## cut -/

/-- A range of positions, which begin at one. -/
structure Range where
  first : Nat
  last : Option Nat
  deriving DecidableEq, Repr

def Range.holds (r : Range) (n : Nat) : Bool := r.first ≤ n && r.last.all (n ≤ ·)

/-- What is wrong with a list of ranges. -/
def rangeFault (ofFields : Bool) (text : List Char) : String :=
  let kind := if ofFields then "field value" else "byte/character position"
  s!"invalid {kind} '{String.ofList text}'"

def zeroFault (ofFields : Bool) : String :=
  (if ofFields then "fields" else "byte/character positions") ++ " are numbered from 1"

/-- Ranges like `3`, `3-5`, `3-` or `-5`, with commas or blanks between them. -/
def rangesFrom (ofFields : Bool) : Nat → List Char → Except String (List Range)
  | 0, _ => .ok []
  | fuel + 1, s => do
    let isSeparator (c : Char) : Bool := c == ',' || c == ' ' || c == '\t'
    let digits := s.takeWhile Char.isDigit
    let rest := s.drop digits.length
    let first := valueIn 10 digits
    let (r, rest) ← show Except String (Range × List Char) from
      match rest with
      | '-' :: more => do
        let lastDigits := more.takeWhile Char.isDigit
        let rest := more.drop lastDigits.length
        let last := valueIn 10 lastDigits
        if !digits.isEmpty && first = 0 then throw (zeroFault ofFields)
        if rest.head? = some '-' then
          throw (if ofFields then "invalid field range" else "invalid byte or character range")
        if !rest.isEmpty && !rest.head?.any isSeparator then throw (rangeFault ofFields rest)
        if digits.isEmpty && lastDigits.isEmpty then throw "invalid range with no endpoint: -"
        let least := if digits.isEmpty then 1 else first
        if !lastDigits.isEmpty && last < least then throw "invalid decreasing range"
        return (⟨least, if lastDigits.isEmpty then none else some last⟩, rest)
      | rest => do
        if !rest.isEmpty && !rest.head?.any isSeparator then throw (rangeFault ofFields rest)
        if first = 0 then throw (zeroFault ofFields)
        return (⟨first, some first⟩, rest)
    match rest with
    | [] => return [r]
    | _ :: rest => return r :: (← rangesFrom ofFields fuel rest)

def ranges? (ofFields : Bool) (text : String) : Except String (List Range) :=
  rangesFrom ofFields (text.length + 1) text.toList

/-- The elements at the positions in ranges, or at the others. -/
def chosenAt {α : Type} (rs : List Range) (isComplement : Bool) (xs : List α) : List α :=
  (xs.zipIdx.filter fun (_, i) => (rs.any (·.holds (i + 1))) != isComplement).map (·.1)

def cutOptions : List Known := [
  { letter := 'b', takes := .argument, names := ["bytes"] },
  { letter := 'c', takes := .argument, names := ["characters"] },
  { letter := 'f', takes := .argument, names := ["fields"] },
  { letter := 'd', takes := .argument, names := ["delimiter"] },
  { letter := 's', names := ["only-delimited"] },
  { letter := 'κ', names := ["complement"] },
  { letter := 'ω', takes := .argument, names := ["output-delimiter"] }, { letter := 'n' }]

/-- The part of a line that is wanted; nothing if the line is left out. -/
def cutLine (o : Options) (rs : List Range) (delimiter : Char) (output : String)
    (l : List Char) : Option (List Char) :=
  if o.has 'f' then
    if !l.contains delimiter then if o.has 's' then none else some l
    else
      let parts := chosenAt rs (o.has 'κ') (splitAt delimiter [] l)
      some (output.intercalate (parts.map String.ofList)).toList
  else some (chosenAt rs (o.has 'κ') l)

def cut : Routine := fun c => do
  let o ← c.options cutOptions 1 false
  let lists := o.given.filter fun (k, _) => k == 'b' || k == 'c' || k == 'f'
  match lists with
  | [] => do
    c.misused "you must specify a list of bytes, characters, or fields"
    return 1
  | _ :: _ :: _ => do
    c.misused "only one list may be specified"
    return 1
  | [(kind, text)] =>
    let delimiterText := (o.value? 'd').getD "\t"
    if 1 < delimiterText.length then
      c.misused "the delimiter must be a single character"
      return 1
    if kind ≠ 'f' && o.has 'd' then
      c.misused "an input delimiter may be specified only when operating on fields"
      return 1
    if kind ≠ 'f' && o.has 's' then
      c.misused "suppressing non-delimited lines makes sense\n\tonly when operating on fields"
      return 1
    match ranges? (kind == 'f') (text.getD "") with
    | .error text => do
      c.misused text
      return 1
    | .ok rs => do
      let delimiter := delimiterText.toList.headD '\x00'
      let output := (o.value? 'ω').getD (String.singleton delimiter)
      let f : LineFilter Unit := ⟨fun _ l =>
        match cutLine o rs delimiter output l.text with
        | some part => ((), Line.whole ⟨part, true⟩, true)
        | none => ((), "", true)⟩
      let mut status := 0
      for path in inputsOf o do
        match ← openInput path with
        | .error e =>
          c.complain s!"{path}: {errorText e}"
          status := 1
        | .ok d =>
          let (_, _, e) ← f.run c d ()
          match e with
          | some e =>
            c.complain s!"{path}: {errorText e}"
            status := 1
          | none => pure ()
          closeInput d
      return status

/-! ## tr -/

/-- A part of a set of characters. -/
inductive SetPart where
  | chars (cs : List Char)
  /-- A character as often as it takes to make the set as long as the other one. -/
  | filling (c : Char)

/-- A character of a set, and whether it came after a backslash. -/
def setChar : List Char → Option ((Char × Bool) × List Char)
  | [] => none
  | '\\' :: rest =>
    match rest with
    | [] => some (('\\', false), [])
    | c :: more =>
      if Format.isOctal c then
        let (d, rest) := Format.octal rest
        some ((d, true), rest)
      else some (((Format.escaped? c).getD c, true), more)
  | c :: rest => some ((c, false), rest)

/-- The parts of a set. -/
def setParts : Nat → List Char → Except String (List SetPart)
  | 0, _ | _, [] => .ok []
  | fuel + 1, s =>
    match s with
    | '[' :: ':' :: rest =>
      let name := rest.takeWhile (· != ':')
      match rest.drop name.length with
      | ':' :: ']' :: after =>
        match CharKind.members? (String.ofList name) with
        | some cs => do return .chars cs :: (← setParts fuel after)
        | none => .error s!"invalid character class '{String.ofList name}'"
      | _ => ordinary fuel s
    | '[' :: '=' :: c :: '=' :: ']' :: rest => do return .chars [c] :: (← setParts fuel rest)
    | '[' :: rest =>
      match setChar rest with
      | some ((c, _), '*' :: more) =>
        let digits := more.takeWhile Char.isDigit
        match more.drop digits.length with
        | ']' :: after => do
          let base := if digits.head? = some '0' then 8 else 10
          let count := valueIn base digits
          let part : SetPart :=
            if count = 0 then .filling c else .chars (List.replicate count c)
          return part :: (← setParts fuel after)
        | _ => ordinary fuel s
      | _ => ordinary fuel s
    | s => ordinary fuel s
where
  /-- A character or a range. -/
  ordinary (fuel : Nat) (s : List Char) : Except String (List SetPart) :=
    match fuel, setChar s with
    | 0, _ | _, none => .ok []
    | fuel + 1, some ((low, _), '-' :: rest) =>
      match setChar rest with
      | none => do return .chars [low] :: (← setParts fuel ('-' :: rest))
      | some ((high, _), after) =>
        if high < low then
          let show_ (c : Char) : String := String.singleton c
          .error (s!"range-endpoints of '{show_ low}-{show_ high}' " ++
            "are in reverse collating sequence order")
        else do
          let cs := (List.range (high.toNat - low.toNat + 1)).map fun n =>
            Char.ofNat (low.toNat + n)
          return .chars cs :: (← setParts fuel after)
    | fuel + 1, some ((c, _), rest) => do return .chars [c] :: (← setParts fuel rest)

/-- The characters of a set, which is to be as long as another one if it can. -/
def charsOf (wanted : Nat) (parts : List SetPart) : List Char :=
  let fixed := (parts.map fun
    | .chars cs => cs.length
    | .filling _ => 0).foldl (· + ·) 0
  parts.flatMap fun
    | .chars cs => cs
    | .filling c => List.replicate (wanted - fixed) c

structure Translation where
  deletes : Bool
  squeezes : Bool
  /-- What each of the 256 characters becomes. -/
  image : Array Char
  isDeleted : Array Bool
  isSqueezed : Array Bool

def members (cs : List Char) : Array Bool :=
  cs.foldl (fun a c => a.setIfInBounds c.toNat true) (Array.replicate 256 false)

/-- The output for characters, after a character that was written. -/
def Translation.apply (t : Translation) :
    Option Char → List Char → List Char → List Char × Option Char
  | before, done, [] => (done.reverse, before)
  | before, done, c :: rest =>
    if t.deletes && (t.isDeleted[c.toNat]?).getD false then t.apply before done rest
    else
      let d := (t.image[c.toNat]?).getD c
      if t.squeezes && before = some d && (t.isSqueezed[d.toNat]?).getD false then
        t.apply before done rest
      else t.apply (some d) (d :: done) rest

def trOptions : List Known := [
  { letter := 'd', names := ["delete"] }, { letter := 's', names := ["squeeze-repeats"] },
  { letter := 'c', names := ["complement"] }, { letter := 'C' },
  { letter := 't', names := ["truncate-set1"] }]

/-- The translation that the arguments of `tr` ask for. -/
def translation (o : Options) : Except String Translation := do
  let isComplement := o.has 'c' || o.has 'C'
  let deletes := o.has 'd'
  let squeezes := o.has 's'
  let first := (o.operands[0]?).getD ""
  let firstParts ← setParts (2 * first.length + 2) first.toList
  let given := charsOf 0 firstParts
  let first :=
    if isComplement then CharKind.all.filter (!given.contains ·) else given
  let identity : Array Char := CharKind.all.toArray
  let second ← match o.operands[1]? with
    | none => pure none
    | some text => do
      let parts ← setParts (2 * text.length + 2) text.toList
      pure (some (charsOf first.length parts))
  match second with
  | none =>
    return {
      deletes, squeezes, image := identity, isDeleted := members first,
      isSqueezed := members first }
  | some second =>
    if deletes then
      return {
        deletes, squeezes, image := identity, isDeleted := members first,
        isSqueezed := members second }
    else
      if second.isEmpty && !o.has 't' then
        throw "when not truncating set1, string2 must be non-empty"
      let first := if o.has 't' then first.take second.length else first
      let last := second.getLast?.getD ' '
      let image := first.zipIdx.foldl
        (fun a (c, i) => a.setIfInBounds c.toNat ((second[i]?).getD last)) identity
      return { deletes, squeezes, image, isDeleted := #[], isSqueezed := members second }

def tr : Routine := fun c => do
  let o ← c.options trOptions 1 true
  let count := o.operands.length
  let least := if o.has 'd' == o.has 's' then 2 else 1
  let most := if o.has 'd' && !o.has 's' then 1 else 2
  if count < least then
    match o.operands with
    | [] => c.misused "missing operand"
    | first :: _ =>
      let reason := if o.has 's' then
          "Two strings must be given when both deleting and squeezing repeats."
        else "Two strings must be given when translating."
      say (s!"{c.name}: missing operand after '{first}'\n{reason}\n" ++
        s!"Try '{c.name} --help' for more information.\n")
    return 1
  if most < count then
    let extra := (o.operands[most]?).getD ""
    let reason :=
      if count = 2 then "Only one string may be given when deleting without squeezing repeats.\n"
      else ""
    say s!"{c.name}: extra operand '{extra}'\n{reason}Try '{c.name} --help' for more information.\n"
    return 1
  match translation o with
  | .error text => do
    c.complain text
    return 1
  | .ok t => do
    let (_, e) ← forPieces 0 (none : Option Char) fun before piece => do
      let (output, before) := t.apply before [] piece.toList
      c.print (String.ofList output)
      return (before, true)
    match e with
    | some e => do
      c.complain s!"read error: {errorText e}"
      return 1
    | none => return 0

/-! ## sort -/

/-- How keys are compared. -/
structure KeyStyle where
  isNumeric : Bool := false
  isGeneral : Bool := false
  isHuman : Bool := false
  isReverse : Bool := false
  foldsCase : Bool := false
  skipsBlanks : Bool := false
  isDictionary : Bool := false
  printableOnly : Bool := false
  deriving DecidableEq, Repr

def KeyStyle.withLetter (k : KeyStyle) (c : Char) : KeyStyle :=
  match c with
  | 'n' => { k with isNumeric := true }
  | 'g' => { k with isGeneral := true }
  | 'h' => { k with isHuman := true }
  | 'r' => { k with isReverse := true }
  | 'f' => { k with foldsCase := true }
  | 'b' => { k with skipsBlanks := true }
  | 'd' => { k with isDictionary := true }
  | 'i' => { k with printableOnly := true }
  | _ => k

/-- An end of a key: a field, and a character in it. -/
structure KeyEnd where
  field : Nat
  char : Nat
  deriving DecidableEq, Repr

structure Key where
  first : KeyEnd
  last : Option KeyEnd
  /-- Nothing if the style of the whole sort counts. -/
  style : Option KeyStyle
  deriving DecidableEq, Repr

/-- A number in the text of a key, with what comes after it. -/
def keyNumber (role : String) (s : List Char) : Except String (Nat × List Char) :=
  let digits := s.takeWhile Char.isDigit
  if digits.isEmpty then
    .error s!"invalid number {role}: invalid count at start of '{String.ofList s}'"
  else .ok (valueIn 10 digits, s.drop digits.length)

/-- An end of a key at the start of a text, with the letters after it. -/
def keyEnd (whole : List Char) (role : String) (char : Nat) (s : List Char) :
    Except String (KeyEnd × List Char × List Char) := do
  let invalid (text : String) : String :=
    s!"{text}: invalid field specification '{String.ofList whole}'"
  let (field, rest) ← keyNumber role s
  if field = 0 then throw (invalid "field number is zero")
  let (place, rest) ←
    match rest with
    | '.' :: more => keyNumber "after '.'" more
    | rest => pure (char, rest)
  if place = 0 && char = 1 then throw (invalid "character offset is zero")
  let letters := rest.takeWhile fun c => "bdfghiMnRrV".toList.contains c
  let rest := rest.drop letters.length
  if !rest.isEmpty && (rest.head? ≠ some ',' || char = 0) then
    throw (invalid "stray character in field spec")
  return (⟨field, place⟩, letters, rest)

/-- A key like `2,2n` or `1.3`. -/
def key (s : List Char) : Except String Key := do
  let style (letters : List Char) : Option KeyStyle :=
    if letters.isEmpty then none else some (letters.foldl KeyStyle.withLetter {})
  let (first, letters, rest) ← keyEnd s "at field start" 1 s
  match rest with
  | [] => return ⟨first, none, style letters⟩
  | _ :: more => do
    let (last, others, _) ← keyEnd s "after ','" 0 more
    return ⟨first, some last, style (letters ++ others)⟩

/-- Where the fields of a line begin, and where each ends. -/
def fieldBounds (separator : Option Char) (l : List Char) : List (Nat × Nat) :=
  match separator with
  | some sep =>
    let parts := splitAt sep [] l
    (parts.foldl (fun (acc, at_) p => ((at_, at_ + p.length) :: acc, at_ + p.length + 1))
      (([] : List (Nat × Nat)), 0)).1.reverse
  | none => go l.length 0 l
where
  go : Nat → Nat → List Char → List (Nat × Nat)
    | 0, _, _ => []
    | fuel + 1, at_, cs =>
      if cs.isEmpty then []
      else
        let blanks := (cs.takeWhile isBlankChar).length
        let word := ((cs.drop blanks).takeWhile (!isBlankChar ·)).length
        (at_, at_ + blanks + word) :: go fuel (at_ + blanks + word) (cs.drop (blanks + word))
  isBlankChar (c : Char) : Bool := c == ' ' || c == '\t' || c == '\n'

/-- The part of a line that a key stands for. -/
def keyText (separator : Option Char) (style : KeyStyle) (k : Key) (l : List Char) : List Char :=
  let bounds := fieldBounds separator l
  let skip (at_ : Nat) : Nat :=
    if style.skipsBlanks then
      at_ + ((l.drop at_).takeWhile fun c => c == ' ' || c == '\t').length
    else at_
  let start :=
    match bounds[k.first.field - 1]? with
    | none => l.length
    | some (a, _) => min l.length (skip a + (k.first.char - 1))
  let finish :=
    match k.last with
    | none => l.length
    | some e =>
      match bounds[e.field - 1]? with
      | none => l.length
      | some (a, b) => if e.char = 0 then b else min l.length (skip a + e.char)
  (l.drop start).take (finish - start)

/-- A number at the start of a text as a fraction of a power of ten. -/
def numericKey (s : List Char) : Int × Nat :=
  let s := s.dropWhile isSpace
  let (isNegative, s) : Bool × List Char :=
    match s with
    | '-' :: rest => (true, rest)
    | s => (false, s)
  let whole := s.takeWhile Char.isDigit
  let fraction :=
    match s.drop whole.length with
    | '.' :: rest => rest.takeWhile Char.isDigit
    | _ => []
  let n : Int := valueIn 10 (whole ++ fraction)
  (if isNegative then -n else n, fraction.length)

def compareNumbers (a b : Int × Nat) : Ordering :=
  compare (a.1 * (Nat.pow 10 b.2 : Nat)) (b.1 * (Nat.pow 10 a.2 : Nat))

/-- The place of a suffix like `K` or `M` after a number. -/
def suffixRank (s : List Char) : Nat :=
  let s := (s.dropWhile isSpace).dropWhile fun c => c == '-' || c.isDigit || c == '.'
  match s with
  | c :: _ => ("KMGTPEZY".toList.idxOf? c.toUpper).map (· + 1) |>.getD 0
  | [] => 0

def compareGeneral (a b : List Char) : Ordering :=
  let rank : Option (Format.Real × List Char) → Nat
    | none => 0
    | some (.notANumber, _) => 1
    | some (.infinite true, _) => 2
    | some (.finite _, _) => 3
    | some (.infinite false, _) => 4
  let x := Format.real? a
  let y := Format.real? b
  match x, y with
  | some (.finite p, _), some (.finite q, _) =>
    let value (z : Binary64) : Int × Nat :=
      let (n, d) := z.quotient
      (if z.negative then -(n : Int) else n, d)
    let (n, d) := value p
    let (m, e) := value q
    compare (n * e) (m * d)
  | x, y => compare (rank x) (rank y)

def compareTexts (a b : List Char) : Ordering :=
  if a < b then .lt else if b < a then .gt else .eq

/-- The order of two keys. -/
def KeyStyle.compare (k : KeyStyle) (a b : List Char) : Ordering :=
  let o :=
    if k.isNumeric then compareNumbers (numericKey a) (numericKey b)
    else if k.isHuman then
      let sign (s : List Char) : Int := (numericKey s).1.sign
      match Ord.compare (sign a) (sign b) with
      | .eq =>
        match Ord.compare (sign a * suffixRank a) (sign b * suffixRank b) with
        | .eq => compareNumbers (numericKey a) (numericKey b)
        | o => o
      | o => o
    else if k.isGeneral then compareGeneral a b
    else
      let clean (s : List Char) : List Char :=
        let s := if k.isDictionary then
            s.filter fun c => c.isAlphanum || c == ' ' || c == '\t' else s
        let s := if k.printableOnly then s.filter fun c => ' ' ≤ c && c ≤ '~' else s
        if k.foldsCase then s.map Char.toUpper else s
      compareTexts (clean a) (clean b)
  if k.isReverse then o.swap else o

structure SortStyle where
  style : KeyStyle
  keys : List Key
  separator : Option Char
  isUnique : Bool
  isStable : Bool

/-- The order of two lines by their keys alone. -/
def SortStyle.compareKeys (s : SortStyle) (a b : List Char) : Ordering :=
  if s.keys.isEmpty then
    let skip (l : List Char) : List Char :=
      if s.style.skipsBlanks then l.dropWhile fun c => c == ' ' || c == '\t' else l
    s.style.compare (skip a) (skip b)
  else
    s.keys.foldl (fun o k =>
      match o with
      | .eq =>
        let style := k.style.getD s.style
        style.compare (keyText s.separator style k a) (keyText s.separator style k b)
      | o => o) .eq

/-- The order of two lines. -/
def SortStyle.compare (s : SortStyle) (a b : List Char) : Ordering :=
  match s.compareKeys a b with
  | .eq =>
    if s.isUnique || s.isStable then .eq
    else
      let o := compareTexts a b
      if s.style.isReverse then o.swap else o
  | o => o

def sortOptions : List Known := [
  { letter := 'n', names := ["numeric-sort"] }, { letter := 'r', names := ["reverse"] },
  { letter := 'u', names := ["unique"] }, { letter := 'f', names := ["ignore-case"] },
  { letter := 'b', names := ["ignore-leading-blanks"] },
  { letter := 'd', names := ["dictionary-order"] },
  { letter := 'i', names := ["ignore-nonprinting"] },
  { letter := 'g', names := ["general-numeric-sort"] },
  { letter := 'h', names := ["human-numeric-sort"] },
  { letter := 's', names := ["stable"] }, { letter := 'c', takes := .maybe, names := ["check"] },
  { letter := 'C' }, { letter := 'm', names := ["merge"] },
  { letter := 'k', takes := .argument, names := ["key"] },
  { letter := 't', takes := .argument, names := ["field-separator"] },
  { letter := 'o', takes := .argument, names := ["output"] },
  { letter := 'S', takes := .argument }, { letter := 'T', takes := .argument }]

/-- Leaves out lines that are the same as the one before them. -/
def withoutRepeats (same : List Char → List Char → Bool) : List (List Char) → List (List Char)
  | [] => []
  | [a] => [a]
  | a :: b :: rest =>
    if same a b then withoutRepeats same (a :: rest) else a :: withoutRepeats same (b :: rest)
termination_by ls => ls.length

/-- The lines of several texts, always the one that comes first of those that each text begins
with. -/
def mergedTexts (isFine : List Char → List Char → Bool) : Nat → List (List (List Char)) →
    List (List Char)
  | 0, _ => []
  | fuel + 1, texts =>
    let heads := texts.zipIdx.filterMap fun (ls, i) => ls.head?.map (·, i)
    match heads with
    | [] => []
    | first :: others =>
      let (line, place) := others.foldl (fun best h => if isFine best.1 h.1 then best else h) first
      line :: mergedTexts isFine fuel
        (texts.zipIdx.map fun (ls, i) => if i = place then ls.drop 1 else ls)

/-- The first line that is not in order, with its number. -/
def disorder? (isFine : List Char → List Char → Bool) : Nat → List (List Char) →
    Option (Nat × List Char)
  | n, a :: b :: rest =>
    if isFine a b then disorder? isFine (n + 1) (b :: rest) else some (n + 1, b)
  | _, _ => none

def sort : Routine := fun c => do
  let o ← c.options sortOptions 2 false
  let style := o.given.foldl (fun (k : KeyStyle) (l, _) => k.withLetter l) {}
  let keyTexts := o.given.filterMap fun (l, v) => if l = 'k' then v else none
  let mut keys : List Key := []
  for text in keyTexts do
    match key text.toList with
    | .ok k => keys := keys ++ [k]
    | .error e =>
      c.complain e
      Program.exit 2
  let separator : Option Char ←
    match o.value? 't' with
    | none => pure none
    | some "\\0" => pure (some '\x00')
    | some text =>
      match text.toList with
      | [t] => pure (some t)
      | [] => do
        c.complain "empty tab"
        Program.exit 2
      | _ => do
        c.complain s!"multi-character tab '{text}'"
        Program.exit 2
  let isCheck := o.has 'c' || o.has 'C'
  match isCheck, o.operands with
  | true, _ :: extra :: _ => do
    let letter := if o.has 'c' then "c" else "C"
    c.complain s!"extra operand '{extra}' not allowed with -{letter}"
    Program.exit 2
  | _, _ => pure ()
  let mut texts : List (List (List Char)) := []
  for path in inputsOf o do
    match ← readInput path with
    | .error (wasOpened, e) =>
      c.complain (if wasOpened then s!"read failed: {path}: {errorText e}"
        else s!"cannot read: {path}: {errorText e}")
      Program.exit 2
    | .ok text => texts := texts ++ [(linesOf text).map (·.text)]
  let lines := texts.flatten
  let s : SortStyle := { style, keys, separator, isUnique := o.has 'u', isStable := o.has 's' }
  if isCheck then
    let isFine (a b : List Char) : Bool :=
      let order := s.compare a b
      order == .lt || (order == .eq && !s.isUnique)
    match disorder? isFine 1 lines with
    | some (n, l) =>
      let input := (inputsOf o).headD "-"
      if o.has 'c' then c.complain s!"{input}:{n}: disorder: {String.ofList l}"
      return 1
    | none => return 0
  let isFine (a b : List Char) : Bool := s.compare a b != .gt
  let sorted := if o.has 'm' then mergedTexts isFine lines.length texts else lines.mergeSort isFine
  let sorted := if s.isUnique then withoutRepeats (fun a b => s.compareKeys a b == .eq) sorted
    else sorted
  let text := String.join (sorted.map fun l => Line.whole ⟨l, true⟩)
  match o.value? 'o' with
  | none => c.print text
  | some path =>
    match ← Program.ask (.openFile path { writes := true, creates := true, empties := true }) with
    | .ok d => discard (Program.write d text)
    | .error e =>
      c.complain s!"open failed: {path}: {errorText e}"
      Program.exit 2
  return 0

/-! ## uniq and comm -/

def uniqOptions : List Known := [
  { letter := 'c', names := ["count"] }, { letter := 'd', names := ["repeated"] },
  { letter := 'u', names := ["unique"] }, { letter := 'i', names := ["ignore-case"] },
  { letter := 'f', takes := .argument, names := ["skip-fields"] },
  { letter := 's', takes := .argument, names := ["skip-chars"] },
  { letter := 'w', takes := .argument, names := ["check-chars"] },
  { letter := 'D' }]

/-- Drops fields with the blanks before them. -/
def dropFields : Nat → List Char → List Char
  | 0, l => l
  | n + 1, l =>
    let isBlank (c : Char) : Bool := c == ' ' || c == '\t'
    dropFields n ((l.dropWhile isBlank).dropWhile (!isBlank ·))

/-- Runs of lines that are the same. -/
def runs (same : List Char → List Char → Bool) : List (List Char) → List (List (List Char))
  | [] => []
  | l :: rest =>
    match runs same rest with
    | (first :: more) :: others =>
      if same l first then (l :: first :: more) :: others else [l] :: (first :: more) :: others
    | others => [l] :: others

def uniq : Routine := fun c => do
  let o ← c.options uniqOptions 1 false
  let natural (letter : Char) : Option Nat := (o.value? letter).bind natural?
  let keyOf (l : List Char) : List Char :=
    let l := (dropFields ((natural 'f').getD 0) l).drop ((natural 's').getD 0)
    let l := match natural 'w' with
      | some n => l.take n
      | none => l
    if o.has 'i' then l.map Char.toLower else l
  let input := o.operands.headD "-"
  match ← readInput input with
  | .error (wasOpened, e) => do
    c.complain (if wasOpened then s!"error reading '{input}'" else s!"{input}: {errorText e}")
    return 1
  | .ok text =>
    let groups := runs (fun a b => keyOf a == keyOf b) ((linesOf text).map (·.text))
    let groups := groups.filter fun g =>
      if o.has 'd' && o.has 'u' then false
      else if o.has 'd' || o.has 'D' then 1 < g.length
      else if o.has 'u' then g.length = 1
      else true
    let shown := groups.flatMap fun g =>
      if o.has 'D' then g.map fun l => Line.whole ⟨l, true⟩
      else
        let digits := toString g.length
        let count :=
          if o.has 'c' then Format.repeated (7 - digits.length) ' ' ++ digits ++ " " else ""
        [count ++ Line.whole ⟨g.headD [], true⟩]
    let output := String.join shown
    match o.operands with
    | [_, path] =>
      match ← Program.ask (.openFile path { writes := true, creates := true, empties := true }) with
      | .ok d => do
        discard (Program.write d output)
        return 0
      | .error e => do
        c.complain s!"{path}: {errorText e}"
        return 1
    | _ => do
      c.print output
      return 0

/-- What is left of one of the texts that are compared, with the last line that was taken. -/
structure Side where
  rest : List (List Char)
  taken : Option (List Char) := none

namespace Side

/-- What is left after the next line was taken. -/
def next (s : Side) : Side := ⟨s.rest.drop 1, s.rest.head?⟩

/-- Whether the lines are out of order where the next one is taken. At the end the last two are
looked at again. -/
def hasDisorder (s : Side) : Bool :=
  match s.rest, s.taken with
  | a :: b :: _, _ => compareTexts a b == .gt
  | [b], some a => compareTexts a b == .gt
  | _, _ => false

end Side

/-- When lines that are out of order are complained of. -/
inductive Watch where
  | never
  /-- After a line that only one text has. -/
  | late
  /-- Always, and then nothing more is done. -/
  | strict
  deriving DecidableEq, Repr

/-- What was found so far, the last one first. -/
structure Comparison where
  /-- The lines of the first text alone, of the second alone, and of both. -/
  rows : List (Nat × List Char) := []
  hasAlone : Bool := false
  /-- The texts whose lines are out of order. -/
  faults : List Nat := []

namespace Comparison

def isWatched (c : Comparison) : Watch → Bool
  | .never => false
  | .late => c.hasAlone
  | .strict => true

/-- Looks at the order of a text. -/
def watch (w : Watch) (n : Nat) (s : Side) (c : Comparison) : Comparison :=
  if c.isWatched w && s.hasDisorder && !c.faults.contains n then { c with faults := n :: c.faults }
  else c

end Comparison

/-- Compares two sorted texts. -/
def compareSides (w : Watch) : Nat → Side → Side → Comparison → Comparison
  | 0, _, _, c => c
  | fuel + 1, a, b, c =>
    let first (l : List Char) : Comparison :=
      { c with rows := (1, l) :: c.rows, hasAlone := true } |>.watch w 1 a
    let second (l : List Char) : Comparison :=
      { c with rows := (2, l) :: c.rows, hasAlone := true } |>.watch w 2 b
    let (found, takesFirst, takesSecond) : Comparison × Bool × Bool :=
      match a.rest, b.rest with
      | [], [] => (c, false, false)
      | l :: _, [] => (first l, true, false)
      | [], l :: _ => (second l, false, true)
      | l :: _, m :: _ =>
        match compareTexts l m with
        | .lt => (first l, true, false)
        | .gt => (second m, false, true)
        | .eq => (({ c with rows := (3, l) :: c.rows }.watch w 1 a).watch w 2 b, true, true)
    let isOver := (!takesFirst && !takesSecond) || (w == .strict && !found.faults.isEmpty)
    if isOver then found
    else
      compareSides w fuel (if takesFirst then a.next else a) (if takesSecond then b.next else b)
        found

def comm : Routine := fun c => do
  let o ← c.options [
    { letter := '1' }, { letter := '2' }, { letter := '3' },
    { letter := 'κ', names := ["check-order"] },
    { letter := 'ω', names := ["nocheck-order"] }] 1 false
  match o.operands with
  | [first, second] => do
    let mut texts : List (List (List Char)) := []
    for path in [first, second] do
      match ← readInput path with
      | .error (_, e) =>
        c.complain s!"{path}: {errorText e}"
        Program.exit 1
      | .ok text => texts := texts ++ [(linesOf text).map (·.text)]
    let as := texts.headD []
    let bs := (texts.drop 1).headD []
    let shows (n : Nat) : Bool := !o.has (Char.ofNat (n + '0'.toNat))
    let kind := o.lastOf? ['κ', 'ω']
    let watch : Watch :=
      match kind with
      | some 'κ' => .strict
      | some _ => .never
      | none => .late
    let found := compareSides watch (as.length + bs.length + 1) { rest := as } { rest := bs } {}
    let rows := found.rows.reverse
    let tabs (n : Nat) : Nat := ((List.range (n - 1)).filter fun k => shows (k + 1)).length
    c.print (String.join ((rows.filter fun (n, _) => shows n).map fun (n, l) =>
      Format.repeated (tabs n) '\t' ++ Line.whole ⟨l, true⟩))
    for n in found.faults.reverse do c.complain s!"file {n} is not in sorted order"
    if found.faults.isEmpty then return 0
    if watch = .late then c.complain "input is not in sorted order"
    return 1
  | [] => do
    c.misused "missing operand"
    return 1
  | [first] => do
    c.misused s!"missing operand after '{first}'"
    return 1
  | _ :: _ :: extra :: _ => do
    c.misused s!"extra operand '{extra}'"
    return 1

end BindingCoverage.Host.Utility
