import BindingCoverage.Host.Format
import BindingCoverage.Host.Utility.Basic

/-!
# Programs that copy

Programs that write what they read, or parts of it, or what they have counted: `cat`, `head`,
`tail`, `tee`, `wc` and others.
-/

namespace BindingCoverage.Host.Utility

/-- The operands, or the text that the program is given to read. -/
def inputsOf (o : Options) : List String := if o.operands.isEmpty then ["-"] else o.operands

/-- The factor of a suffix of a number. -/
def factor? (suffix : String) : Option Nat :=
  match suffix with
  | "" => some 1
  | "b" => some 512
  | "kB" | "KB" => some 1000
  | "k" | "K" | "KiB" => some 1024
  | "MB" => some 1000000
  | "M" | "MiB" | "m" => some 1048576
  | "GB" => some 1000000000
  | "G" | "GiB" | "g" => some 1073741824
  | _ => none

/-- A number with a suffix. -/
def amount? (s : List Char) : Option Nat := do
  let digits := s.takeWhile Char.isDigit
  if digits.isEmpty then none
  return valueIn 10 digits * (← factor? (String.ofList (s.drop digits.length)))

/-! ## cat -/

structure CatStyle where
  numbers : Bool
  numbersFilled : Bool
  squeezes : Bool
  showsEnds : Bool
  showsTabs : Bool
  showsOthers : Bool

/-- A character in a form that can be seen. -/
def visible (style : CatStyle) (c : Char) : String :=
  if c = '\t' then (if style.showsTabs then "^I" else "\t")
  else if !style.showsOthers then String.singleton c
  else
    let low (n : Nat) : String :=
      if n < 32 then String.ofList ['^', Char.ofNat (n + 64)]
      else if n = 127 then "^?"
      else String.singleton (Char.ofNat n)
    if c.toNat < 128 then low c.toNat else "M-" ++ low (c.toNat - 128)

structure CatState where
  count : Nat := 0
  wasEmpty : Bool := false

def catLine (style : CatStyle) (s : CatState) (l : Line) : CatState × String × Bool :=
  let isEmpty := l.text.isEmpty && l.hasEnd
  if style.squeezes && isEmpty && s.wasEmpty then (s, "", true)
  else
    let isNumbered := style.numbersFilled && !isEmpty || style.numbers && !style.numbersFilled
    let count := if isNumbered then s.count + 1 else s.count
    let number :=
      if isNumbered then
        let digits := toString count
        Format.repeated (6 - digits.length) ' ' ++ digits ++ "\t"
      else ""
    let text := String.join (l.text.map (visible style))
    let ending := if l.hasEnd then (if style.showsEnds then "$\n" else "\n") else ""
    ({ count, wasEmpty := isEmpty }, number ++ text ++ ending, true)

def catOptions : List Known := [
  { letter := 'n', names := ["number"] }, { letter := 'b', names := ["number-nonblank"] },
  { letter := 's', names := ["squeeze-blank"] }, { letter := 'E', names := ["show-ends"] },
  { letter := 'T', names := ["show-tabs"] }, { letter := 'v', names := ["show-nonprinting"] },
  { letter := 'A', names := ["show-all"] }, { letter := 'e' }, { letter := 't' }, { letter := 'u' }]

def cat : Routine := fun c => do
  let o ← c.options catOptions 1 false
  let style : CatStyle := {
    numbers := o.has 'n'
    numbersFilled := o.has 'b'
    squeezes := o.has 's'
    showsEnds := o.has 'E' || o.has 'A' || o.has 'e'
    showsTabs := o.has 'T' || o.has 'A' || o.has 't'
    showsOthers := o.has 'v' || o.has 'A' || o.has 'e' || o.has 't' }
  let isPlain := o.given.all (·.1 == 'u')
  let mut status := 0
  let mut state : CatState := {}
  for path in inputsOf o do
    match ← openInput path with
    | .error e =>
      c.complain s!"{path}: {errorText e}"
      status := 1
    | .ok d =>
      let e ←
        if isPlain then
          let (_, e) ← forPieces d () fun _ piece => do
            c.print piece
            return ((), true)
          pure e
        else
          let (next, _, e) ← LineFilter.run c ⟨catLine style⟩ d state
          state := next
          pure e
      match e with
      | some e =>
        c.complain s!"{path}: {errorText e}"
        status := 1
      | none => pure ()
      closeInput d
  return status

/-! ## head and tail -/

/-- The first of several parts. -/
def headLine (remaining : Nat) (l : Line) : Nat × String × Bool :=
  match remaining with
  | 0 => (0, "", false)
  | n + 1 => (n, l.written, 0 < n)

/-- How much of a text is wanted. -/
structure Portion where
  countsLines : Bool := true
  count : Nat := 10
  /-- Whether the count is of what is left out at the other end, or of where to begin. -/
  isInverse : Bool := false
  isQuiet : Bool := false
  isVerbose : Bool := false

/-- The first lines or octets of what a descriptor gives. -/
def printHead (c : Call) (p : Portion) (d : Nat) : Program (Option SystemError) := do
  if p.isInverse then
    match ← Program.readAll d with
    | .error e => return some e
    | .ok text =>
      if p.countsLines then
        let lines := linesOf text
        c.print (String.join ((lines.take (lines.length - p.count)).map (·.written)))
      else c.print (String.ofList (text.toList.take (text.length - p.count)))
      return none
  else if p.count = 0 then return none
  else if p.countsLines then
    let (_, _, e) ← LineFilter.run c ⟨headLine⟩ d p.count
    return e
  else
    let (_, e) ← forPieces d p.count fun remaining piece => do
      let taken := String.ofList (piece.toList.take remaining)
      c.print taken
      let remaining := remaining - taken.length
      return (remaining, 0 < remaining)
    return e

/-- The last lines or octets of what a descriptor gives. -/
def printTail (c : Call) (p : Portion) (d : Nat) : Program (Option SystemError) := do
  match ← Program.readAll d with
  | .error e => return some e
  | .ok text =>
    if p.countsLines then
      let lines := linesOf text
      let skipped := if p.isInverse then p.count - 1 else lines.length - p.count
      c.print (String.join ((lines.drop skipped).map (·.written)))
    else
      let cs := text.toList
      let skipped := if p.isInverse then p.count - 1 else cs.length - p.count
      c.print (String.ofList (cs.drop skipped))
    return none

def portionOptions : List Known := [
  { letter := 'n', takes := .argument, names := ["lines"] },
  { letter := 'c', takes := .argument, names := ["bytes"] },
  { letter := 'q', names := ["quiet", "silent"] }, { letter := 'v', names := ["verbose"] },
  { letter := 'z', names := ["zero-terminated"] }]

def followOptions : List Known := portionOptions ++ [
  { letter := 'f', takes := .maybe, names := ["follow"] }, { letter := 'F' },
  { letter := 's', takes := .argument, names := ["sleep-interval"] },
  { letter := 'P', takes := .argument, names := ["pid"] }]

/-- Arguments in which a number after a hyphen has become an ordinary option. -/
def modernized (isTail : Bool) (arguments : List String) : List String :=
  match arguments with
  | a :: rest =>
    match a.toList with
    | '-' :: d :: more =>
      if d.isDigit then
        let digits := (d :: more).takeWhile Char.isDigit
        let letters := (d :: more).drop digits.length
        if letters.isEmpty then "-n" :: String.ofList digits :: rest
        else if letters = ['c'] then "-c" :: String.ofList digits :: rest
        else if letters = ['f'] && isTail then "-f" :: "-n" :: String.ofList digits :: rest
        else arguments
      else arguments
    | '+' :: d :: more =>
      if isTail && d.isDigit && more.all Char.isDigit then
        "-n" :: String.ofList ('+' :: d :: more) :: rest
      else arguments
    | _ => arguments
  | [] => []

/-- The portion that the options ask for, or what is wrong with it. -/
def portionOf (inverse : Char) (o : Options) : Except String Portion :=
  let base : Portion := { isQuiet := o.has 'q', isVerbose := o.has 'v' }
  match o.lastOf? ['n', 'c'] with
  | none => .ok base
  | some letter =>
    let text := (o.value? letter).getD ""
    let (isInverse, digits) : Bool × List Char :=
      match text.toList with
      | sign :: digits =>
        if sign = inverse then (true, digits)
        else if sign = '-' || sign = '+' then (false, digits)
        else (false, sign :: digits)
      | [] => (false, [])
    let kind := if letter = 'n' then "lines" else "bytes"
    match amount? digits with
    | some count => .ok { base with countsLines := letter == 'n', count, isInverse }
    | none => .error s!"invalid number of {kind}: '{String.ofList digits}'"

/-- Prints portions of several files. -/
def portions (c : Call) (o : Options) (p : Portion)
    (one : Nat → Program (Option SystemError)) : Program Nat := do
  let inputs := inputsOf o
  let titled := p.isVerbose || (1 < inputs.length && !p.isQuiet)
  let mut status := 0
  let mut isFirst := true
  for path in inputs do
    match ← openInput path with
    | .error e =>
      c.complain s!"cannot open '{path}' for reading: {errorText e}"
      status := 1
    | .ok d =>
      let title := if path = "-" then "standard input" else path
      if titled then c.print ((if isFirst then "" else "\n") ++ s!"==> {title} <==\n")
      isFirst := false
      match ← one d with
      | some e =>
        c.complain s!"error reading '{title}': {errorText e}"
        status := 1
      | none => pure ()
      closeInput d
  return status

def head : Routine := fun c => do
  let c := { c with arguments := modernized false c.arguments }
  let o ← c.options portionOptions 1 false
  match portionOf '-' o with
  | .error text => do
    c.complain text
    return 1
  | .ok p => portions c o p (printHead c p)

def tail : Routine := fun c => do
  let c := { c with arguments := modernized true c.arguments }
  let o ← c.options followOptions 1 false
  match portionOf '+' o with
  | .error text => do
    c.complain text
    return 1
  | .ok p => do
    let status ← portions c o p (printTail c p)
    if o.has 'f' || o.has 'F' then Program.stall else return status

/-! ## tee -/

def tee : Routine := fun c => do
  let o ← c.options [
    { letter := 'a', names := ["append"] }, { letter := 'i', names := ["ignore-interrupts"] },
    { letter := 'p', takes := .maybe, names := ["output-error"] }] 1 false
  if o.has 'i' then Program.ask (.dispose Signal.interrupt .ignored)
  let mut status := 0
  let mut outputs : List Nat := []
  for path in o.operands do
    let opening : Opening :=
      { writes := true, creates := true, empties := !o.has 'a', appends := o.has 'a' }
    match ← Program.ask (.openFile path opening) with
    | .ok d => outputs := outputs ++ [d]
    | .error e =>
      c.complain s!"{path}: {errorText e}"
      status := 1
  let (_, e) ← forPieces 0 () fun _ piece => do
    c.print piece
    for d in outputs do discard (Program.write d piece)
    return ((), true)
  match e with
  | some e => do
    c.complain s!"read error: {errorText e}"
    return 1
  | none => return status

/-! ## wc -/

structure Counts where
  lines : Nat := 0
  words : Nat := 0
  octets : Nat := 0
  longest : Nat := 0
  /-- The length of the line under way. -/
  current : Nat := 0
  isInWord : Bool := false

namespace Counts

def add (k : Counts) (c : Char) : Counts :=
  let isBlank := isSpace c
  { lines := if c = '\n' then k.lines + 1 else k.lines
    words := if !isBlank && !k.isInWord then k.words + 1 else k.words
    octets := k.octets + 1
    longest := max k.longest k.current
    current :=
      if c = '\n' then 0
      else if c = '\t' then (k.current / 8 + 1) * 8
      else if ' ' ≤ c && c ≤ '~' then k.current + 1
      else k.current
    isInWord := !isBlank }

def total (a b : Counts) : Counts :=
  { lines := a.lines + b.lines, words := a.words + b.words, octets := a.octets + b.octets
    longest := max a.longest b.longest }

end Counts

def wcOptions : List Known := [
  { letter := 'l', names := ["lines"] }, { letter := 'w', names := ["words"] },
  { letter := 'c', names := ["bytes"] }, { letter := 'm', names := ["chars"] },
  { letter := 'L', names := ["max-line-length"] }]

/-- The counts that were asked for, in their order. -/
def wanted (o : Options) (k : Counts) : List Nat :=
  if o.given.isEmpty then [k.lines, k.words, k.octets]
  else
    (if o.has 'l' then [k.lines] else []) ++ (if o.has 'w' then [k.words] else []) ++
    (if o.has 'm' then [k.octets] else []) ++ (if o.has 'c' then [k.octets] else []) ++
    (if o.has 'L' then [max k.longest k.current] else [])

def countRow (width : Nat) (counts : List Nat) (name : String) : String :=
  let cells := counts.map fun n =>
    let digits := toString n
    Format.repeated (width - digits.length) ' ' ++ digits
  " ".intercalate cells ++ (if name.isEmpty then "" else " " ++ name) ++ "\n"

/-- The size of a file that is not opened yet; nothing for what is no regular file. -/
def sizeOf? (files : Files) (path : String) : Program (Except Unit (Option Nat)) := do
  if path = "-" then return .ok (← Program.ask (.size 0))
  match files.node (Octets.text path) with
  | .ok (.file octets _) => return .ok (some octets.length)
  | .ok _ => return .ok none
  | .error _ => return .error ()

/-- The width of the columns. -/
def columnWidth (sizes : List (Except Unit (Option Nat))) : Nat :=
  let known := sizes.filterMap fun s => s.toOption
  let total := (known.filterMap id).foldl (· + ·) 0
  let least := if known.any (·.isNone) then 7 else 1
  match sizes with
  | .error _ :: _ => 1
  | _ => max least (toString total).length

def wc : Routine := fun c => do
  let o ← c.options wcOptions 1 false
  let inputs := inputsOf o
  let columns := (wanted o {}).length
  let files ← Program.ask .files
  let width ←
    if inputs.length = 1 && columns = 1 then pure 1
    else do pure (columnWidth (← inputs.mapM (sizeOf? files)))
  let mut status := 0
  let mut all : Counts := {}
  for path in inputs do
    let name := if o.operands.isEmpty then "" else path
    match ← openInput path with
    | .error e =>
      c.complain s!"{path}: {errorText e}"
      status := 1
    | .ok d =>
      let (k, e) ← forPieces d ({} : Counts) fun k piece => do
        return (piece.toList.foldl Counts.add k, true)
      closeInput d
      match e with
      | some e =>
        c.complain s!"{path}: {errorText e}"
        status := 1
      | none => pure ()
      c.print (countRow width (wanted o k) name)
      all := all.total { k with longest := max k.longest k.current }
  if 1 < inputs.length then c.print (countRow width (wanted o all) "total")
  return status

/-! ## Lines in another order or form -/

/-- Prints what becomes of the whole text of each input. -/
def eachWhole (c : Call) (o : Options) (open_ : String → SystemError → String)
    (one : String → String) : Program Nat := do
  let mut status := 0
  for path in inputsOf o do
    match ← readInput path with
    | .error (_, e) =>
      c.complain (open_ path e)
      status := 1
    | .ok text => c.print (one text)
  return status

/-- The lines in reverse; a line without an end is put before the next one as it stands. -/
def tac : Routine := fun c => do
  let o ← c.options [
    { letter := 'b', names := ["before"] }, { letter := 'r', names := ["regex"] },
    { letter := 's', takes := .argument, names := ["separator"] }] 1 false
  eachWhole c o (fun path e => s!"failed to open '{path}' for reading: {errorText e}") fun text =>
    String.join ((linesOf text).reverse.map (·.written))

def rev : Routine := fun c => do
  let o ← c.options [] 1 false
  eachWhole c o (fun path e => s!"cannot open {path}: {errorText e}") fun text =>
    String.join ((linesOf text).map fun l => Line.written { l with text := l.text.reverse })

structure Numbering where
  kind : Char := 't'
  width : Nat := 6
  separator : String := "\t"
  start : Nat := 1
  increment : Nat := 1
  hasZeros : Bool := false
  isLeft : Bool := false

def nlLine (n : Numbering) (next : Nat) (l : Line) : Nat × String × Bool :=
  let isNumbered := n.kind == 'a' || (n.kind == 't' && !l.text.isEmpty)
  if isNumbered then
    let digits := toString next
    let fill := Format.repeated (n.width - digits.length) (if n.hasZeros then '0' else ' ')
    let number := if n.isLeft then digits ++ fill else fill ++ digits
    (next + n.increment, number ++ n.separator ++ l.whole, true)
  else (next, Format.repeated (n.width + n.separator.length) ' ' ++ l.whole, true)

def nl : Routine := fun c => do
  let o ← c.options [
    { letter := 'b', takes := .argument, names := ["body-numbering"] },
    { letter := 'w', takes := .argument, names := ["number-width"] },
    { letter := 's', takes := .argument, names := ["number-separator"] },
    { letter := 'v', takes := .argument, names := ["starting-line-number"] },
    { letter := 'i', takes := .argument, names := ["line-increment"] },
    { letter := 'n', takes := .argument, names := ["number-format"] }] 1 false
  let natural (letter : Char) (default : Nat) : Nat :=
    ((o.value? letter).bind natural?).getD default
  let n : Numbering := {
    kind := ((o.value? 'b').bind (·.toList.head?)).getD 't'
    width := natural 'w' 6
    separator := (o.value? 's').getD "\t"
    start := natural 'v' 1
    increment := natural 'i' 1
    hasZeros := o.value? 'n' == some "rz"
    isLeft := o.value? 'n' == some "ln" }
  let mut status := 0
  let mut next := n.start
  for path in inputsOf o do
    match ← openInput path with
    | .error e =>
      c.complain s!"{path}: {errorText e}"
      status := 1
    | .ok d =>
      let (after, _, e) ← LineFilter.run c ⟨nlLine n⟩ d next
      next := after
      match e with
      | some e =>
        c.complain s!"{path}: {errorText e}"
        status := 1
      | none => pure ()
      closeInput d
  return status

/-- A line cut into pieces of a width. -/
def folded (width : Nat) (atSpaces : Bool) : Nat → List Char → List (List Char)
  | 0, cs => [cs]
  | fuel + 1, cs =>
    if cs.length ≤ width then [cs]
    else
      let piece := cs.take width
      let afterSpace := (piece.reverse.dropWhile (· != ' ')).reverse
      let piece := if atSpaces && !afterSpace.isEmpty then afterSpace else piece
      piece :: folded width atSpaces fuel (cs.drop piece.length)

def fold : Routine := fun c => do
  let o ← c.options [
    { letter := 'w', takes := .argument, names := ["width"] },
    { letter := 's', names := ["spaces"] }, { letter := 'b', names := ["bytes"] }] 1 false
  let width := max 1 (((o.value? 'w').bind natural?).getD 80)
  eachWhole c o (fun path e => s!"{path}: {errorText e}") fun text =>
    String.join ((linesOf text).map fun l =>
      let pieces := folded width (o.has 's') l.text.length l.text
      "\n".intercalate (pieces.map String.ofList) ++ (if l.hasEnd then "\n" else ""))

/-- Lines side by side. -/
def pasted (delimiters : List Char) : Nat → List (List Line) → List String
  | 0, _ => []
  | fuel + 1, columns =>
    if columns.all (·.isEmpty) then []
    else
      let cells := columns.map fun ls => String.ofList ((ls.head?.map (·.text)).getD [])
      let joined := cells.zipIdx.foldl (fun s (cell, i) =>
        if i = 0 then cell
        else
          let d := delimiters[(i - 1) % (max 1 delimiters.length)]?
          s ++ (d.map String.singleton).getD "" ++ cell) ""
      (joined ++ "\n") :: pasted delimiters fuel (columns.map (·.drop 1))

def paste : Routine := fun c => do
  let o ← c.options [
    { letter := 'd', takes := .argument, names := ["delimiters"] },
    { letter := 's', names := ["serial"] }] 1 false
  let delimiters := (Format.unescape ((o.value? 'd').getD "\t")).1.toList
  let inputs := inputsOf o
  let shares := (inputs.filter (· == "-")).length
  let own ← if shares = 0 then pure [] else do pure (linesOf ((← readInput "-").toOption.getD ""))
  let mut columns : List (List Line) := []
  let mut share := 0
  for path in inputs do
    if path = "-" then
      let lines :=
        if o.has 's' then if share = 0 then own else []
        else (own.zipIdx.filter fun (_, i) => i % shares = share).map (·.1)
      columns := columns ++ [lines]
      share := share + 1
    else
      match ← readInput path with
      | .error (_, e) =>
        c.complain s!"{path}: {errorText e}"
        Program.exit 1
      | .ok text => columns := columns ++ [linesOf text]
  if o.has 's' then
    for ls in columns do
      let rows := pasted delimiters 1 (ls.map fun l => [l])
      c.print (if rows.isEmpty then "\n" else String.join rows)
  else
    let most := (columns.map List.length).foldl max 0
    c.print (String.join (pasted delimiters most columns))
  return 0

end BindingCoverage.Host.Utility
