import BindingCoverage.Host.Regex.Reader
import BindingCoverage.Host.Utility.Copying

/-!
# Searching

`grep` and the two names for its variants: the lines of texts in which a pattern is found.
-/

namespace BindingCoverage.Host.Utility

/-! ## Options -/

def grepOptions : List Known := [
  { letter := 'E', names := ["extended-regexp"] }, { letter := 'F', names := ["fixed-strings"] },
  { letter := 'G', names := ["basic-regexp"] }, { letter := 'P', names := ["perl-regexp"] },
  { letter := 'e', takes := .argument, names := ["regexp"] },
  { letter := 'f', takes := .argument, names := ["file"] },
  { letter := 'i', names := ["ignore-case"] }, { letter := 'y' },
  { letter := 'v', names := ["invert-match"] }, { letter := 'w', names := ["word-regexp"] },
  { letter := 'x', names := ["line-regexp"] }, { letter := 'c', names := ["count"] },
  { letter := 'l', names := ["files-with-matches"] },
  { letter := 'L', names := ["files-without-match"] },
  { letter := 'q', names := ["quiet", "silent"] }, { letter := 's', names := ["no-messages"] },
  { letter := 'n', names := ["line-number"] }, { letter := 'H', names := ["with-filename"] },
  { letter := 'h', names := ["no-filename"] }, { letter := 'o', names := ["only-matching"] },
  { letter := 'b', names := ["byte-offset"] },
  { letter := 'm', takes := .argument, names := ["max-count"] },
  { letter := 'A', takes := .argument, names := ["after-context"] },
  { letter := 'B', takes := .argument, names := ["before-context"] },
  { letter := 'C', takes := .argument, names := ["context"] },
  { letter := 'r', names := ["recursive"] },
  { letter := 'R', names := ["dereference-recursive"] }, { letter := 'a', names := ["text"] },
  { letter := 'Z', names := ["null"] }, { letter := 'U', names := ["binary"] },
  { letter := 'T', names := ["initial-tab"] }, { letter := 'z', names := ["null-data"] },
  { letter := 'I' }, { letter := 'd', takes := .argument, names := ["directories"] },
  { letter := 'D', takes := .argument, names := ["devices"] },
  { letter := 'κ', takes := .maybe, names := ["color", "colour"] },
  { letter := 'β', names := ["line-buffered"] },
  { letter := 'σ', names := ["no-group-separator"] },
  { letter := 'γ', takes := .argument, names := ["group-separator"] },
  { letter := 'λ', takes := .argument, names := ["label"] }] ++
  "0123456789".toList.map fun d => { letter := d }

/-- What `grep` is to do. -/
structure Search where
  patterns : List Regex
  foldsCase : Bool := false
  isInverse : Bool := false
  wholeWords : Bool := false
  wholeLines : Bool := false
  onlyMatches : Bool := false
  counts : Bool := false
  listsFound : Bool := false
  listsOthers : Bool := false
  isQuiet : Bool := false
  isSilent : Bool := false
  hasNumbers : Bool := false
  hasOffsets : Bool := false
  hasNames : Bool := false
  isText : Bool := false
  ending : Char := '\n'
  most : Option Nat := none
  before : Nat := 0
  after : Nat := 0
  separator : Option String := some "--"

namespace Search

/-- Whether nothing but the fact counts that a line was selected. -/
def isBrief (s : Search) : Bool := s.isQuiet || s.listsFound || s.listsOthers

/-! ## Matches in a line -/

/-- The end of a match at a place, in accord with the demand for whole words or lines. -/
def stopAt? (s : Search) (subject : Regex.Subject) (r : Regex) (start : Nat) : Option Nat :=
  if s.wholeLines && start ≠ 0 then none
  else
    let ends := (r.ends subject r.refersBack ⟨start, []⟩).map (·.stop)
    if s.wholeLines then ends.find? (· == subject.text.size)
    else if s.wholeWords then
      if subject.wordBefore start then none else ends.find? (!subject.wordAt ·)
    else ends.head?

/-- The longest match of any pattern at a place. -/
def longestAt? (s : Search) (subject : Regex.Subject) (start : Nat) : Option Nat :=
  (s.patterns.filterMap fun r => s.stopAt? subject r start).max?

/-- The first match at one of so many places. -/
def first? (s : Search) (subject : Regex.Subject) : Nat → Nat → Option (Nat × Nat)
  | 0, _ => none
  | fuel + 1, start =>
    match s.longestAt? subject start with
    | some stop => some (start, stop)
    | none => s.first? subject fuel (start + 1)

def subject (s : Search) (l : List Char) : Regex.Subject := ⟨l.toArray, s.foldsCase, false⟩

def selects (s : Search) (l : List Char) : Bool :=
  (s.first? (s.subject l) (l.length + 1) 0).isSome != s.isInverse

/-- The matches in a line that are not empty, with their places. -/
def matchesFrom (s : Search) (subject : Regex.Subject) : Nat → Nat → List (Nat × Nat)
  | 0, _ => []
  | fuel + 1, start =>
    match s.first? subject (subject.text.size + 1 - start) start with
    | none => []
    | some (a, b) =>
      if a = b then s.matchesFrom subject fuel (b + 1) else (a, b) :: s.matchesFrom subject fuel b

/-! ## Output -/

/-- What stands before a line. -/
def label (s : Search) (name : String) (mark : String) (number offset : Nat) : String :=
  (if s.hasNames then name ++ mark else "") ++
  (if s.hasNumbers then toString number ++ mark else "") ++
  (if s.hasOffsets then toString offset ++ mark else "")

structure State where
  number : Nat := 0
  offset : Nat := 0
  selected : Nat := 0
  /-- The lines before, with their numbers and offsets, the last one first. -/
  recent : List (Nat × Nat × List Char) := []
  /-- How many lines after a selected one are still shown. -/
  pending : Nat := 0
  /-- The number of the last line that was shown. -/
  shown : Option Nat := none
  isBinary : Bool := false

/-- A line among others. -/
def shownLine (s : Search) (name mark : String) (number offset : Nat) (l : List Char) : String :=
  s.label name mark number offset ++ String.ofList (l ++ [s.ending])

/-- The output for a selected line. -/
def selectedText (s : Search) (name : String) (number offset : Nat) (l : List Char) : String :=
  if s.onlyMatches then
    if s.isInverse then ""
    else
      let found := s.matchesFrom (s.subject l) (l.length + 1) 0
      String.join (found.map fun (a, b) =>
        s.shownLine name ":" number (offset + a) ((l.drop a).take (b - a)))
  else s.shownLine name ":" number offset l

/-- The line that is put between lines that do not follow each other. -/
def gap (s : Search) (state : State) (first : Nat) : String :=
  match state.shown, s.separator with
  | some last, some text =>
    if (0 < s.before || 0 < s.after) && last + 1 < first && !s.onlyMatches then text ++ "\n" else ""
  | _, _ => ""

/-- The output for a line, and whether more lines are wanted. -/
def line (s : Search) (name : String) (state : State) (l : List Char) : State × String × Bool :=
  let number := state.number + 1
  let offset := state.offset
  let next := { state with number, offset := offset + l.length + 1 }
  let isFull := s.most.any (· ≤ state.selected)
  if !isFull && s.selects l then
    let next := { next with selected := state.selected + 1 }
    if s.isBrief || (state.isBinary && !s.counts) then (next, "", false)
    else if s.counts then (next, "", s.most.all (next.selected < ·))
    else
      let context := (state.recent.take s.before).reverse.filter fun (n, _, _) =>
        state.shown.all (· < n)
      let first := (context.head?.map (·.1)).getD number
      let before := String.join (context.map fun (n, o, l) =>
        if s.onlyMatches then "" else s.shownLine name "-" n o l)
      let text := s.gap state first ++ before ++ s.selectedText name number offset l
      let isLast := s.most.any (· ≤ next.selected)
      ({ next with recent := [], pending := s.after, shown := some number }, text,
        !(isLast && s.after = 0))
  else if 0 < state.pending then
    let text := if s.onlyMatches then "" else s.shownLine name "-" number offset l
    ({ next with pending := state.pending - 1, shown := some number, recent := [] }, text,
      !(isFull && state.pending = 1))
  else
    ({ next with recent := ((number, offset, l) :: state.recent).take s.before }, "", !isFull)

/-- The output for several lines. -/
def lines (s : Search) (name : String) (state : State) (output : List String) :
    List (List Char) → State × String × Bool
  | [] => (state, String.join output.reverse, true)
  | l :: rest =>
    let (state, text, wantsMore) := s.line name state l
    if wantsMore then s.lines name state (text :: output) rest
    else (state, String.join (text :: output).reverse, false)

/-- Lines with an ending of their own; the characters of the line under way come last first. -/
def split (ending : Char) (current : List Char) (done : List (List Char)) : List Char →
    List (List Char) × List Char
  | [] => (done.reverse, current)
  | c :: rest =>
    if c = ending then split ending [] (current.reverse :: done) rest
    else split ending (c :: current) done rest

/-- Searches what a descriptor gives. -/
def run (s : Search) (c : Call) (name : String) (d : Nat) :
    Program (State × Option SystemError) := do
  if s.most = some 0 then return ({}, none)
  let ((state, rest, wantsMore), e) ← forPieces d (({} : State), ([] : List Char), true)
    fun (state, rest, _) piece => do
      let isBinary := state.isBinary ||
        (!s.isText && s.ending == '\n' && piece.toList.contains '\x00')
      let (complete, rest) := split s.ending rest [] piece.toList
      let (state, output, wantsMore) := s.lines name { state with isBinary } [] complete
      c.print output
      return ((state, rest, wantsMore), wantsMore)
  let state ←
    if wantsMore && !rest.isEmpty then do
      let (state, output, _) := s.line name state rest.reverse
      c.print output
      pure state
    else pure state
  return (state, e)

end Search

/-! ## The program -/

def grepMisuse (c : Call) (text : String) : Program Nat := do
  if !text.isEmpty then c.complain text
  say s!"Usage: {c.name} [OPTION]... PATTERNS [FILE]...\n"
  say s!"Try '{c.name} --help' for more information.\n"
  return 2

def patternLines (text : String) : List (List Char) := splitAt '\n' [] text.toList

/-- The expression that stands for a text itself. -/
def literal (s : List Char) : Regex :=
  match s with
  | [] => .empty
  | c :: rest => rest.foldl (fun r c => .sequence r (.char c)) (.char c)

/-- The expressions of patterns. -/
def patternsOf (o : Options) (lines : List (List Char)) : Except String (List Regex) :=
  match o.lastOf? ['E', 'F', 'G', 'P'] with
  | some 'F' => .ok (lines.map literal)
  | kind =>
    let isExtended := kind == some 'E' || kind == some 'P'
    lines.mapM fun l =>
      if ['[', ':'].isPrefixOf l && [']', ':'].isPrefixOf l.reverse && 3 < l.length then
        .error "character class syntax is [[:space:]], not [:space:]"
      else (Regex.ofText { isExtended } l).mapError (·.message)

/-- Complains of patterns that may be meant otherwise than they are written. -/
def warn (c : Call) (o : Options) (lines : List (List Char)) : Program Unit :=
  match o.lastOf? ['E', 'F', 'G', 'P'] with
  | some 'E' => (lines.flatMap (Regex.warnings { isExtended := true })).forM fun text =>
      c.complain s!"warning: {text}"
  | _ => return

/-- The lengths of the contexts before and after a line. -/
def contextOf (o : Options) : Except String (Nat × Nat) := do
  let natural (letter : Char) : Except String (Option Nat) :=
    match o.value? letter with
    | none => .ok none
    | some text =>
      match natural? text with
      | some n => .ok (some n)
      | none => .error s!"{text}: invalid context length argument"
  let digits := (o.given.map (·.1)).filter Char.isDigit
  let both ← natural 'C'
  let both := both.or (if digits.isEmpty then none else some (valueIn 10 digits))
  return (((← natural 'B').or both).getD 0, ((← natural 'A').or both).getD 0)

def searchOf (o : Options) (patterns : List Regex) (hasNames : Bool) : Except String Search := do
  let (before, after) ← contextOf o
  let most ←
    match o.value? 'm' with
    | none => pure none
    | some text =>
      match number? (some 10) text with
      | some n => pure (if n < 0 then none else some n.toNat)
      | none => throw "invalid max count"
  return {
    patterns, before, after, most, hasNames
    foldsCase := o.has 'i' || o.has 'y'
    isInverse := o.has 'v'
    wholeWords := o.has 'w'
    wholeLines := o.has 'x'
    onlyMatches := o.has 'o'
    counts := o.has 'c'
    listsFound := o.lastOf? ['l', 'L'] == some 'l'
    listsOthers := o.lastOf? ['l', 'L'] == some 'L'
    isQuiet := o.has 'q'
    isSilent := o.has 's'
    hasNumbers := o.has 'n'
    hasOffsets := o.has 'b'
    isText := o.has 'a'
    ending := if o.has 'z' then '\x00' else '\n'
    separator := if o.has 'σ' then none else some ((o.value? 'γ').getD "--") }

/-- The files below a directory, in the order of their names. -/
def filesBelow (files : Files) (text : String) (path : Path) : List String :=
  let below := files.nodes.filterMap fun (other, node) =>
    match node with
    | .file _ _ => if path.isPrefixOf other then some (other.drop path.length) else none
    | _ => none
  (below.map fun names => "/".intercalate (if text.isEmpty then names else text :: names)).mergeSort

/-- The inputs of `grep`: directories stand for the files in them if that is wanted. -/
def searchInputs (o : Options) (operands : List String) : Program (List String) := do
  if !(o.has 'r' || o.has 'R') then return if operands.isEmpty then ["-"] else operands
  let files ← Program.ask .files
  if operands.isEmpty then return filesBelow files "" files.working
  return operands.flatMap fun text =>
    match files.resolve (Octets.text text) with
    | .ok path =>
      if files.get? path = some .directory then
        filesBelow files (String.ofList (text.toList.reverse.dropWhile (· == '/')).reverse) path
      else [text]
    | .error _ => [text]

/-- The texts of the patterns, and the operands that are left. -/
def patternTexts (c : Call) (o : Options) : Program (List (List Char) × List String) := do
  let mut texts : List (List Char) := []
  for (letter, value) in o.given do
    if letter = 'e' then texts := texts ++ patternLines (value.getD "")
    if letter = 'f' then
      match ← readInput (value.getD "") with
      | .ok text => texts := texts ++ (linesOf text).map (·.text)
      | .error (_, e) => do
        let path := value.getD ""
        c.complain s!"{path}: {errorText e}"
        Program.exit 2
  if o.has 'e' || o.has 'f' then return (texts, o.operands)
  match o.operands with
  | [] => do
    let status ← grepMisuse c ""
    Program.exit status
  | first :: rest => return (patternLines first, rest)

def grepWith (extra : List (Char × Option String)) : Routine := fun c => do
  match Options.parse grepOptions false c.arguments with
  | .error text => grepMisuse c text
  | .ok o => do
    let o := { o with given := extra ++ o.given }
    let (texts, operands) ← patternTexts c o
    warn c o texts
    match patternsOf o texts with
    | .error text => do
      c.complain text
      return 2
    | .ok patterns => do
      let isDeep := o.has 'r' || o.has 'R'
      let hasNames := match o.lastOf? ['H', 'h'] with
        | some 'H' => true
        | some _ => false
        | none => 1 < operands.length || isDeep
      match searchOf o patterns hasNames with
      | .error text => do
        c.complain text
        return 2
      | .ok s => do
        let inputs ← searchInputs o operands
        let mut hasSelected := false
        let mut hasFailed := false
        for path in inputs do
          let name := if path = "-" then (o.value? 'λ').getD "(standard input)" else path
          match ← openInput path with
          | .error e =>
            if !s.isSilent then c.complain s!"{name}: {errorText e}"
            hasFailed := true
          | .ok d =>
            let (state, e) ← s.run c name d
            closeInput d
            match e with
            | some e =>
              if !s.isSilent then c.complain s!"{name}: {errorText e}"
              hasFailed := true
            | none => pure ()
            if 0 < state.selected then
              hasSelected := true
              if s.isQuiet then Program.exit 0
            let ending := if o.has 'Z' then "\x00" else "\n"
            let start := if s.hasNames then name ++ (if o.has 'Z' then "\x00" else ":") else ""
            if s.counts && !s.isQuiet then c.print s!"{start}{state.selected}\n"
            if (s.listsFound && 0 < state.selected) || (s.listsOthers && state.selected = 0) then
              if !s.isQuiet then c.print (name ++ ending)
            if state.isBinary && 0 < state.selected && !s.counts && !s.isBrief then
              c.complain s!"{name}: binary file matches"
        return if hasFailed then 2 else if hasSelected then 0 else 1

def grep : Routine := grepWith []

/-- The variants give their messages under the same name. -/
def egrep : Routine := fun c => grepWith [('E', none)] { c with name := "grep" }

def fgrep : Routine := fun c => grepWith [('F', none)] { c with name := "grep" }

end BindingCoverage.Host.Utility
