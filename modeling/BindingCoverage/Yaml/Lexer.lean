import BindingCoverage.Yaml.Token

/-!
# From characters to tokens

A key that is not marked as one is recognised only at the colon after it. So the lexer remembers
where such a key may have started, and puts the tokens before it in when the colon comes. A key of
this kind is on one line and has at most 1024 octets.
-/

namespace BindingCoverage.Yaml

/-- Where a key may have started. -/
structure PossibleKey where
  /-- No other reading of the text is left. -/
  required : Bool
  /-- The number of tokens before it. -/
  token : Nat
  index : Nat
  line : Nat
  column : Nat
  deriving DecidableEq, Repr

structure Lexer where
  cursor : Cursor
  tokens : Array Token := #[]
  /-- The indentations of the open block collections, innermost first. -/
  indents : List Nat := []
  /-- One entry for each open flow collection and one for what they are in. -/
  keys : List (Option PossibleKey) := [none]
  keyAllowed : Bool := true

namespace Lexer

def inFlow (l : Lexer) : Bool := 1 < l.keys.length

/-- One more than the indentation of the innermost block collection; zero outside all of them. -/
def parent (l : Lexer) : Nat :=
  match l.indents with
  | [] => 0
  | n :: _ => n + 1

def push (l : Lexer) (t : Token) : Lexer := { l with tokens := l.tokens.push t }

def skip (l : Lexer) : Lexer := { l with cursor := l.cursor.skip }

def allowKey (l : Lexer) (allowed : Bool) : Lexer := { l with keyAllowed := allowed }

/-- Gives up the innermost possible key. -/
def dropKey (l : Lexer) : Option Lexer :=
  match l.keys with
  | some k :: outer => if k.required then none else some { l with keys := none :: outer }
  | _ => some l

/-- Here a key may start. -/
def saveKey (l : Lexer) : Option Lexer :=
  if l.keyAllowed then do
    let l ← l.dropKey
    let c := l.cursor
    let required := !l.inFlow && l.indents.head? == some c.column
    let key : PossibleKey := ⟨required, l.tokens.size, c.index, c.line, c.column⟩
    return { l with keys := some key :: l.keys.drop 1 }
  else some l

/-- Gives up the possible keys that have become too long. -/
def dropStaleKeys (l : Lexer) : Option Lexer := do
  let c := l.cursor
  let keys ← l.keys.mapM fun key =>
    match key with
    | none => some none
    | some k =>
      if k.line < c.line || k.index + 1024 < c.index then
        if k.required then none else some none
      else some (some k)
  return { l with keys }

/-- Opens a block collection where the column is beyond the indentation; its first token is put
before the token with the given number, if there is one. -/
def indent (l : Lexer) (column : Nat) (token : Option Nat) (t : Token) : Lexer :=
  if l.inFlow || column < l.parent then l
  else
    let tokens :=
      match token with
      | some n => l.tokens.insertIdxIfInBounds n t
      | none => l.tokens.push t
    { l with tokens, indents := column :: l.indents }

/-- Closes the block collections that are indented by at least `least`. -/
def closeFrom (least : Nat) (tokens : Array Token) : List Nat → Array Token × List Nat
  | [] => (tokens, [])
  | n :: outer =>
    if least ≤ n then closeFrom least (tokens.push .blockEnd) outer else (tokens, n :: outer)

/-- Closes the block collections indented by at least `least`; within flow collections
indentation has no meaning. -/
def outdent (l : Lexer) (least : Nat) : Lexer :=
  if l.inFlow then l
  else
    let (tokens, indents) := closeFrom least l.tokens l.indents
    { l with tokens, indents }

/-- Reads over blanks, comments and line ends. -/
def skipBetween : Nat → Lexer → Lexer
  | 0, l => l
  | fuel + 1, l =>
    let c := l.cursor
    let c := if c.column == 0 && c.peek == some '\ufeff' then c.skip else c
    let tabs := l.inFlow || !l.keyAllowed
    let c := c.skipWhile fun d => d == ' ' || (tabs && d == '\t')
    let c := if c.peek == some '#' then c.skipWhile (!isBreak ·) else c
    if c.atBreak then
      skipBetween fuel
        { l with cursor := c.readBreak.2, keyAllowed := l.keyAllowed || !l.inFlow }
    else { l with cursor := c }

/-! ## One token -/

def takeDirective (l : Lexer) : Option Lexer := do
  let l ← (l.outdent 0).dropKey
  let (t, c) ← readDirective l.cursor.skip
  return { l with cursor := c, keyAllowed := false }.push t

def takeDocumentMark (l : Lexer) : Option Lexer := do
  let l ← (l.outdent 0).dropKey
  let t := if l.cursor.peek == some '-' then Token.documentStart else .documentEnd
  return { l with cursor := l.cursor.skipMany 3, keyAllowed := false }.push t

def takeFlowStart (l : Lexer) (t : Token) : Option Lexer := do
  let l ← l.saveKey
  return ({ l with keys := none :: l.keys, keyAllowed := true }.skip).push t

def takeFlowEnd (l : Lexer) (t : Token) : Option Lexer := do
  let l ← l.dropKey
  let keys := if l.inFlow then l.keys.drop 1 else l.keys
  return ({ l with keys, keyAllowed := false }.skip).push t

def takeFlowEntry (l : Lexer) : Option Lexer := do
  let l ← l.dropKey
  return ((l.allowKey true).skip).push .flowEntry

def takeBlockEntry (l : Lexer) : Option Lexer := do
  if !l.inFlow && !l.keyAllowed then failure
  let l ← (l.indent l.cursor.column none .blockSequenceStart).dropKey
  return ((l.allowKey true).skip).push .blockEntry

def takeKey (l : Lexer) : Option Lexer := do
  if !l.inFlow && !l.keyAllowed then failure
  let l ← (l.indent l.cursor.column none .blockMappingStart).dropKey
  return ((l.allowKey (!l.inFlow)).skip).push .key

def takeValue (l : Lexer) : Option Lexer :=
  match l.keys with
  | some k :: outer =>
    let l := { l with tokens := l.tokens.insertIdxIfInBounds k.token .key }
    let l := l.indent k.column (some k.token) .blockMappingStart
    some (({ l with keys := none :: outer, keyAllowed := false }.skip).push .value)
  | _ => do
    if !l.inFlow && !l.keyAllowed then failure
    let l := l.indent l.cursor.column none .blockMappingStart
    return ((l.allowKey (!l.inFlow)).skip).push .value

def takeName (l : Lexer) (t : String → Token) : Option Lexer := do
  let l ← l.saveKey
  let (name, c) ← readName l.cursor.skip
  return { l with cursor := c, keyAllowed := false }.push (t name)

def takeTag (l : Lexer) : Option Lexer := do
  let l ← l.saveKey
  let (t, c) ← readTag l.inFlow l.cursor
  return { l with cursor := c, keyAllowed := false }.push t

def takeBlockScalar (l : Lexer) (literal : Bool) : Option Lexer := do
  let l ← l.dropKey
  let (text, c) ← readBlock literal l.parent l.cursor.skip
  return { l with cursor := c, keyAllowed := true }.push
    (.scalar (if literal then .literal else .folded) (String.ofList text))

def takeQuoted (l : Lexer) (single : Bool) : Option Lexer := do
  let l ← l.saveKey
  let (text, c) ← readQuoted single (l.cursor.rest.length + 1) {} l.cursor.skip
  return { l with cursor := c, keyAllowed := false }.push (.scalar .quoted (String.ofList text))

def takePlain (l : Lexer) : Option Lexer := do
  let l ← l.saveKey
  let (f, c) ← readPlain l.inFlow l.parent (l.cursor.rest.length + 1) {} l.cursor
  return { l with cursor := c, keyAllowed := f.broken }.push
    (.scalar .plain (String.ofList f.text.reverse))

/-- Characters that start no plain scalar, a few exceptions apart. -/
def isIndicator (d : Char) : Bool :=
  "-?:,[]#&*!|>'\"%@".toList.contains d || d == '\x7b' || d == '\x7d' || d == '\x60'

/-- A plain scalar can start at a character that another one follows. -/
def startsPlain (inFlow : Bool) (d : Char) (next : List Char) : Bool :=
  !(isIndicator d || isSpaceOrTab d) || (d == '-' && !next.head?.any isSpaceOrTab) ||
    (!inFlow && (d == '?' || d == ':') && !endsWord next)

/-- Reads the token that starts with `d`. -/
def takeToken (l : Lexer) (d : Char) : Option Lexer :=
  let next := l.cursor.rest.drop 1
  let alone := endsWord next
  if l.cursor.column == 0 && d == '%' then l.takeDirective
  else if l.cursor.atDocumentMark then l.takeDocumentMark
  else if d == '[' then l.takeFlowStart .flowSequenceStart
  else if d == '\x7b' then l.takeFlowStart .flowMappingStart
  else if d == ']' then l.takeFlowEnd .flowSequenceEnd
  else if d == '\x7d' then l.takeFlowEnd .flowMappingEnd
  else if d == ',' then l.takeFlowEntry
  else if d == '-' && alone then l.takeBlockEntry
  else if d == '?' && (l.inFlow || alone) then l.takeKey
  else if d == ':' && (l.inFlow || alone) then l.takeValue
  else if d == '*' then l.takeName .reference
  else if d == '&' then l.takeName .anchor
  else if d == '!' then l.takeTag
  else if d == '|' && !l.inFlow then l.takeBlockScalar true
  else if d == '>' && !l.inFlow then l.takeBlockScalar false
  else if d == '\'' then l.takeQuoted true
  else if d == '"' then l.takeQuoted false
  else if startsPlain l.inFlow d next then l.takePlain
  else none

/-- Reads all tokens; every token is at least one character long. -/
def run : Nat → Lexer → Option (Array Token)
  | 0, _ => none
  | fuel + 1, l => do
    let l := l.skipBetween (l.cursor.rest.length + 1)
    let l ← l.dropStaleKeys
    let l := l.outdent (l.cursor.column + 1)
    match l.cursor.peek with
    | none =>
      let l ← (l.outdent 0).dropKey
      return l.tokens
    | some d =>
      let l ← l.takeToken d
      run fuel l

end Lexer

/-- The tokens of a text. -/
def tokens (text : List Char) : Option (Array Token) :=
  if text.all isAllowed then ({ cursor := .start text } : Lexer).run (text.length + 1) else none

end BindingCoverage.Yaml
