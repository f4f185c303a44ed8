/-!
# Reading YAML: characters

A `Cursor` is the text not read yet and its place. Lines end at a line feed, a carriage return,
both, U+0085, U+2028 and U+2029; the last two stay what they are, the others become a line feed.

The functions of these modules give no result where the text is no YAML. Why it is none is not kept.
-/

namespace BindingCoverage.Yaml

structure Cursor where
  rest : List Char
  /-- The octets read so far. -/
  index : Nat
  line : Nat
  column : Nat
  deriving DecidableEq, Repr

def isBreak (c : Char) : Bool :=
  c == '\n' || c == '\r' || c == '\u0085' || c == '\u2028' || c == '\u2029'

def isSpaceOrTab (c : Char) : Bool := c == ' ' || c == '\t'

/-- Letters and digits of the ASCII range, low line and hyphen. -/
def isWordChar (c : Char) : Bool := c.isAlphanum || c == '_' || c == '-'

/-- Characters that a text may hold. -/
def isAllowed (c : Char) : Bool :=
  let n := c.toNat
  n == 0x09 || n == 0x0A || n == 0x0D || (0x20 ≤ n && n ≤ 0x7E) || n == 0x85 ||
  (0xA0 ≤ n && n ≤ 0xFFFD) || 0x10000 ≤ n

/-- The text is at its end, or a blank or a line end comes next. -/
def endsWord : List Char → Bool
  | [] => true
  | c :: _ => isSpaceOrTab c || isBreak c

namespace Cursor

def start (text : List Char) : Cursor := ⟨text, 0, 0, 0⟩

def peek (c : Cursor) : Option Char := c.rest.head?

/-- The character after the next one. -/
def peekSecond (c : Cursor) : Option Char := (c.rest.drop 1).head?

def atEnd (c : Cursor) : Bool := c.rest.isEmpty

/-- A line end comes next. -/
def atBreak (c : Cursor) : Bool := c.peek.any isBreak

def atSpaceOrTab (c : Cursor) : Bool := c.peek.any isSpaceOrTab

def atBreakOrEnd (c : Cursor) : Bool := c.atEnd || c.atBreak

/-- Reads one character, which does not end a line. -/
def skip (c : Cursor) : Cursor :=
  match c.rest with
  | [] => c
  | d :: rest => ⟨rest, c.index + d.utf8Size, c.line, c.column + 1⟩

def skipMany : Nat → Cursor → Cursor
  | 0, c => c
  | n + 1, c => skipMany n c.skip

/-- Reads a line end, if one comes next; also gives what it stands for. -/
def readBreak (c : Cursor) : List Char × Cursor :=
  match c.rest with
  | '\r' :: '\n' :: rest => (['\n'], ⟨rest, c.index + 2, c.line + 1, 0⟩)
  | b :: rest =>
    if b == '\u2028' || b == '\u2029' then ([b], ⟨rest, c.index + b.utf8Size, c.line + 1, 0⟩)
    else if isBreak b then (['\n'], ⟨rest, c.index + b.utf8Size, c.line + 1, 0⟩)
    else ([], c)
  | [] => ([], c)

/-- Reads the characters up to the first one without the property `p`, none of which ends a line. -/
def readWhile (p : Char → Bool) (c : Cursor) : List Char × Cursor :=
  let part := c.rest.takeWhile p
  let octets := part.foldl (fun n d => n + d.utf8Size) 0
  (part, ⟨c.rest.drop part.length, c.index + octets, c.line, c.column + part.length⟩)

def skipWhile (p : Char → Bool) (c : Cursor) : Cursor := (c.readWhile p).2

/-- Reads over blanks and a comment, up to the line end that must follow, and over that. -/
def skipLineRest (c : Cursor) : Option Cursor :=
  let c := c.skipWhile isSpaceOrTab
  let c := if c.peek == some '#' then c.skipWhile (!isBreak ·) else c
  if c.atBreakOrEnd then some c.readBreak.2 else none

/-- A line that begins with one of the two document marks. -/
def atDocumentMark (c : Cursor) : Bool :=
  c.column == 0 &&
    match c.rest with
    | '-' :: '-' :: '-' :: rest => endsWord rest
    | '.' :: '.' :: '.' :: rest => endsWord rest
    | _ => false

end Cursor

end BindingCoverage.Yaml
