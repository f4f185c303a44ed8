import BindingCoverage.Text.Utf8
import BindingCoverage.Yaml.Cursor

/-!
# Scalars

Plain, quoted and block scalars.

Within plain and quoted scalars lines are folded: a single line end becomes a space, of more of
them the first one is dropped, and blanks around line ends do not count. Block scalars keep their
lines, or fold those that begin with no blank.
-/

namespace BindingCoverage.Yaml

inductive Style where
  | plain
  | quoted
  | literal
  | folded
  deriving DecidableEq, Repr

/-- A scalar under construction. Texts are held last character first. -/
structure Folding where
  text : List Char := []
  /-- Blanks since the last character, if no line ended since. -/
  blanks : List Char := []
  /-- The first line end since the last character. -/
  firstBreak : List Char := []
  moreBreaks : List Char := []
  /-- A line ended since the last character. -/
  broken : Bool := false
  deriving DecidableEq, Repr

namespace Folding

/-- Adds what blanks and line ends stand for. -/
def join (f : Folding) : Folding :=
  if f.broken then
    if f.firstBreak = ['\n'] then
      ⟨if f.moreBreaks.isEmpty then ' ' :: f.text else f.moreBreaks ++ f.text, [], [], [], false⟩
    else ⟨f.moreBreaks ++ f.firstBreak ++ f.text, [], [], [], false⟩
  else ⟨f.blanks ++ f.text, [], [], [], false⟩

def add (f : Folding) (c : Char) : Folding := { f with text := c :: f.text }

end Folding

/-- Reads over blanks and line ends. Where an indentation is given, a tab before it is refused. -/
def readGap (indent : Option Nat) : Nat → Folding → Cursor → Option (Folding × Cursor)
  | 0, _, _ => none
  | fuel + 1, f, c =>
    match c.peek with
    | none => some (f, c)
    | some b =>
      if isSpaceOrTab b then
        if f.broken && b == '\t' && indent.any (c.column < ·) then none
        else
          readGap indent fuel (if f.broken then f else { f with blanks := b :: f.blanks }) c.skip
      else if isBreak b then
        let (text, after) := c.readBreak
        if f.broken then
          readGap indent fuel { f with moreBreaks := text.reverse ++ f.moreBreaks } after
        else
          readGap indent fuel { f with blanks := [], firstBreak := text, broken := true } after
      else some (f, c)

/-! ## Plain scalars -/

def isFlowMark (c : Char) : Bool :=
  c == ',' || c == '[' || c == ']' || c == '\x7b' || c == '\x7d'

/-- The characters of a plain scalar up to the next gap, or up to what ends the scalar. -/
def readPlainWord (inFlow : Bool) : Nat → Folding → Cursor → Option (Folding × Cursor)
  | 0, _, _ => none
  | fuel + 1, f, c =>
    match c.peek with
    | none => some (f, c)
    | some b =>
      if isSpaceOrTab b || isBreak b then some (f, c)
      else if b == ':' && inFlow && c.peekSecond.any (fun d => isFlowMark d || d == '?') then none
      else if b == ':' && endsWord (c.rest.drop 1) then some (f, c)
      else if inFlow && isFlowMark b then some (f, c)
      else readPlainWord inFlow fuel (f.join.add b) c.skip

/-- A plain scalar; continuation lines are indented by at least `indent` in block context. The
result says whether a line ended after the scalar. -/
def readPlain (inFlow : Bool) (indent : Nat) : Nat → Folding → Cursor → Option (Folding × Cursor)
  | 0, _, _ => none
  | fuel + 1, f, c =>
    if c.atDocumentMark || c.peek == some '#' then some (f, c)
    else
      match readPlainWord inFlow (c.rest.length + 1) f c with
      | none => none
      | some (f, c) =>
        if !(c.atSpaceOrTab || c.atBreak) then some (f, c)
        else
          match readGap (some indent) (c.rest.length + 1) f c with
          | none => none
          | some (f, c) =>
            if !inFlow && c.column < indent then some (f, c)
            else readPlain inFlow indent fuel f c

/-! ## Quoted scalars -/

/-- The character that a letter after a backslash stands for. -/
def escape? (c : Char) : Option Char :=
  match c with
  | '0' => some '\x00'
  | 'a' => some '\x07'
  | 'b' => some '\x08'
  | 't' | '\t' => some '\t'
  | 'n' => some '\n'
  | 'v' => some '\x0b'
  | 'f' => some '\x0c'
  | 'r' => some '\r'
  | 'e' => some '\x1b'
  | ' ' => some ' '
  | '"' => some '"'
  | '/' => some '/'
  | '\\' => some '\\'
  | 'N' => some '\u0085'
  | '_' => some '\u00a0'
  | 'L' => some '\u2028'
  | 'P' => some '\u2029'
  | _ => none

/-- The number of hexadecimal digits after a letter that follows a backslash. -/
def escapeLength? (c : Char) : Option Nat :=
  match c with
  | 'x' => some 2
  | 'u' => some 4
  | 'U' => some 8
  | _ => none

def hexDigit? (c : Char) : Option Nat :=
  if '0' ≤ c ∧ c ≤ '9' then some (c.toNat - '0'.toNat)
  else if 'a' ≤ c ∧ c ≤ 'f' then some (c.toNat - 'a'.toNat + 10)
  else if 'A' ≤ c ∧ c ≤ 'F' then some (c.toNat - 'A'.toNat + 10)
  else none

/-- The number that hexadecimal digits write. -/
def hexNumber? (digits : List Char) : Option Nat :=
  digits.foldlM (fun n d => (hexDigit? d).map (n * 16 + ·)) 0

/-- An escape sequence other than an escaped line end, at its backslash. -/
def readEscape (c : Cursor) : Option (Char × Cursor) := do
  let letter ← c.peekSecond
  match escape? letter with
  | some d => return (d, c.skipMany 2)
  | none =>
    let length ← escapeLength? letter
    let after := c.skipMany 2
    let digits := after.rest.take length
    if digits.length < length then failure
    let code ← hexNumber? digits
    if code.isValidChar then return (Char.ofNat code, after.skipMany length) else failure

/-- The characters of a quoted scalar up to the next gap or the closing quotation mark. -/
def readQuotedWord (single : Bool) : Nat → Folding → Cursor → Option (Folding × Cursor)
  | 0, _, _ => none
  | fuel + 1, f, c =>
    match c.peek with
    | none => some (f, c)
    | some b =>
      if isSpaceOrTab b || isBreak b then some (f, c)
      else if single then
        if b == '\'' then
          if c.peekSecond == some '\'' then readQuotedWord single fuel (f.add b) (c.skipMany 2)
          else some (f, c)
        else readQuotedWord single fuel (f.add b) c.skip
      else if b == '"' then some (f, c)
      else if b == '\\' then
        if c.peekSecond.any isBreak then some ({ f with broken := true }, c.skip.readBreak.2)
        else
          match readEscape c with
          | none => none
          | some (d, after) => readQuotedWord single fuel (f.add d) after
      else readQuotedWord single fuel (f.add b) c.skip

/-- A quoted scalar after its opening quotation mark. -/
def readQuoted (single : Bool) : Nat → Folding → Cursor → Option (List Char × Cursor)
  | 0, _, _ => none
  | fuel + 1, f, c =>
    if c.atDocumentMark || c.atEnd then none
    else
      match readQuotedWord single (c.rest.length + 1) f c with
      | none => none
      | some (f, c) =>
        if c.peek == some (if single then '\'' else '"') then some (f.text.reverse, c.skip)
        else
          match readGap none (c.rest.length + 1) f c with
          | none => none
          | some (f, c) => readQuoted single fuel f.join c

/-! ## Block scalars -/

/-- What happens to the line ends after the last line of a block scalar. -/
inductive Chomping where
  | strip
  | clip
  | keep
  deriving DecidableEq, Repr

def chomping? (c : Cursor) : Option Chomping :=
  match c.peek with
  | some '+' => some .keep
  | some '-' => some .strip
  | _ => none

/-- The indentation in the header of a block scalar; zero is refused. -/
def readIndentation (c : Cursor) : Option (Option Nat × Cursor) :=
  match c.peek with
  | some d =>
    if d == '0' then none
    else if d.isDigit then some (some (d.toNat - '0'.toNat), c.skip)
    else some (none, c)
  | none => some (none, c)

/-- The header of a block scalar after its first character: chomping and indentation in any
order. -/
def readHeader (c : Cursor) : Option (Chomping × Option Nat × Cursor) :=
  match chomping? c with
  | some chomping => do
    let (indentation, c) ← readIndentation c.skip
    return (chomping, indentation, c)
  | none => do
    let (indentation, c) ← readIndentation c
    match indentation, chomping? c with
    | some n, some chomping => return (chomping, some n, c.skip)
    | _, _ => return (.clip, indentation, c)

/-- Reads over indentation and empty lines. `indent` is the indentation, if it is known, and the
result has the greatest column reached and the line ends, last first. -/
def readEmptyLines (indent : Option Nat) :
    Nat → Nat → List Char → Cursor → Option (Nat × List Char × Cursor)
  | 0, _, _, _ => none
  | fuel + 1, greatest, breaks, c =>
    let spaces := (c.rest.takeWhile (· == ' ')).length
    let c :=
      match indent with
      | some n => c.skipMany (min spaces (n - c.column))
      | none => c.skipMany spaces
    let greatest := max greatest c.column
    if indent.all (c.column < ·) && c.peek == some '\t' then none
    else if c.atBreak then
      let (text, after) := c.readBreak
      readEmptyLines indent fuel greatest (text.reverse ++ breaks) after
    else some (greatest, breaks, c)

/-- The lines of a block scalar. `firstBreak` is the end of the line before, `moreBreaks` the ends
of the empty lines after it, and `leadingBlank` says whether that line began with a blank; texts are
held last character first. -/
def readBlockLines (literal : Bool) (indent : Nat) :
    Nat → Bool → List Char → List Char → List Char → Cursor →
    Option (List Char × List Char × List Char × Cursor)
  | 0, _, _, _, _, _ => none
  | fuel + 1, leadingBlank, text, firstBreak, moreBreaks, c =>
    if c.column == indent && !c.atEnd then
      let blank := c.atSpaceOrTab
      let text :=
        if !literal && firstBreak == ['\n'] && !leadingBlank && !blank then
          if moreBreaks.isEmpty then ' ' :: text else text
        else firstBreak ++ text
      let (line, c) := c.readWhile (!isBreak ·)
      let text := line.reverse ++ (moreBreaks ++ text)
      let (firstBreak, c) := c.readBreak
      match readEmptyLines (some indent) (c.rest.length + 1) 0 [] c with
      | none => none
      | some (_, moreBreaks, c) =>
        readBlockLines literal indent fuel blank text firstBreak moreBreaks c
    else some (text, firstBreak, moreBreaks, c)

/-- A block scalar after its first character. `parent` is the indentation of what it is in, plus
one. -/
def readBlock (literal : Bool) (parent : Nat) (c : Cursor) : Option (List Char × Cursor) := do
  let (chomping, indentation, c) ← readHeader c
  let c ← c.skipLineRest
  let known := indentation.map fun n => parent - 1 + n
  let (greatest, breaks, c) ← readEmptyLines known (c.rest.length + 1) 0 [] c
  let indent := known.getD (max greatest (max parent 1))
  let (text, firstBreak, moreBreaks, c) ←
    readBlockLines literal indent (c.rest.length + 1) false [] [] breaks c
  let tail :=
    match chomping with
    | .strip => []
    | .clip => firstBreak
    | .keep => moreBreaks ++ firstBreak
  return ((tail ++ text).reverse, c)

end BindingCoverage.Yaml
