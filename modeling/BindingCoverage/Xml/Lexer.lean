import BindingCoverage.Xml.Feed
import BindingCoverage.Xml.Item

/-!
# From octets to items

`Lexer.step` takes one octet, and `Lexer.read` one after another. A document that comes in buffers
is read with a search in each of them (`BindingCoverage.Xml.Buffer`); octet by octet is how one says
what it means, wherever the buffers end.

* Quotation marks hide a closing bracket in tags, and nowhere else.
* An item starts at its opening bracket, or where the item before it ended if it is text. A fault
  is placed where the item starts that has it.
-/

namespace BindingCoverage.Xml

/-- What is being read. Contents are held last octet first and start after the opening bracket. -/
inductive Mode where
  /-- Between tags; `seen` says whether there was any text yet. -/
  | text (seen : Bool)
  /-- After an opening bracket. -/
  | opened
  /-- In a tag, and within a quotation that `quote` ends. -/
  | tag (quote : Option UInt8) (content : List UInt8)
  | instruction (content : List UInt8)
  /-- After an opening bracket and an exclamation mark. -/
  | bang
  | comment (content : List UInt8)
  | characterData (content : List UInt8)
  /-- `depth` brackets are open within the document type. -/
  | doctype (depth : Nat) (content : List UInt8)
  deriving DecidableEq, Repr

structure Lexer where
  mode : Mode
  /-- Where the item under way starts. -/
  start : Nat
  /-- The octets read so far. -/
  offset : Nat
  deriving DecidableEq, Repr

inductive Lexer.Step where
  | more (l : Lexer)
  | item (i : Located) (l : Lexer)
  | fault (f : Fault)
  deriving DecidableEq, Repr

namespace Lexer

def initial : Lexer := ⟨.text false, 0, 0⟩

/-- The octet belongs to the item under way. -/
def stay (l : Lexer) (mode : Mode) : Step := .more ⟨mode, l.start, l.offset + 1⟩

/-- The octet is the last one of an item. -/
def finish (l : Lexer) (item : Item) : Step :=
  .item ⟨l.start, item⟩ ⟨.text false, l.offset + 1, l.offset + 1⟩

def refuse (l : Lexer) (e : Error) : Step := .fault ⟨l.start, e⟩

/-- The octets of a short text. -/
def octetsOf (s : String) : List UInt8 := s.toList.flatMap String.utf8EncodeChar

/-- The octet as a small letter of the ASCII range, if it is a capital one. -/
def toLower (b : UInt8) : UInt8 := if 0x41 ≤ b ∧ b ≤ 0x5A then b + 32 else b

/-- An instruction whose content, from the question mark on, is complete, and held last octet first.
It does not open and close with the same question mark. -/
def finishInstruction (l : Lexer) (content : List UInt8) : Step :=
  if content.length = 1 then l.refuse (.syntactic .unclosedInstruction) else l.finish .aside

/-- An item that has to begin with `opening`, and whose content, from the exclamation mark on, is
complete, and held last octet first. -/
def finishMarked (l : Lexer) (opening : String) (e : SyntaxError) (content : List UInt8) : Step :=
  if (octetsOf opening).isPrefixOf content.reverse then l.finish .aside
  else l.refuse (.syntactic e)

/-- A document type whose content, from the exclamation mark on, is complete. -/
def finishDoctype (l : Lexer) (content : List UInt8) : Step :=
  let keyword := octetsOf "!doctype"
  if keyword.isPrefixOf (content.map toLower) then
    if (content.drop keyword.length).all isBlank then l.refuse (.structural .doctypeWithoutName)
    else l.finish .aside
  else l.refuse (.syntactic .unclosedDoctype)

def stepTag (l : Lexer) (quote : Option UInt8) (content : List UInt8) (b : UInt8) : Step :=
  match quote with
  | some q => l.stay (.tag (if b == q then none else some q) (b :: content))
  | none =>
    if b == 0x3E then l.finish (.ofTag content.reverse)
    else if b == 0x22 || b == 0x27 then l.stay (.tag (some b) (b :: content))
    else l.stay (.tag none (b :: content))

/-- Reads one octet. -/
def step (l : Lexer) (b : UInt8) : Step :=
  match l.mode with
  | .text seen =>
    if b == 0x3C then
      if seen then .item ⟨l.start, .aside⟩ ⟨.opened, l.offset, l.offset + 1⟩
      else l.stay .opened
    else l.stay (.text true)
  | .opened =>
    if b == 0x21 then l.stay .bang
    else if b == 0x3F then l.stay (.instruction [b])
    else l.stepTag none [] b
  | .tag quote content => l.stepTag quote content b
  | .instruction content =>
    if b == 0x3E && content.head? == some 0x3F then l.finishInstruction content
    else l.stay (.instruction (b :: content))
  | .bang =>
    if b == 0x2D then l.stay (.comment [b, 0x21])
    else if b == 0x5B then l.stay (.characterData [b, 0x21])
    else if b == 0x44 || b == 0x64 then l.stay (.doctype 0 [b, 0x21])
    else l.refuse (.syntactic .invalidBang)
  | .comment content =>
    if b == 0x3E && 5 ≤ content.length && content.take 2 == [0x2D, 0x2D] then
      l.finishMarked "!--" .unclosedComment content
    else l.stay (.comment (b :: content))
  | .characterData content =>
    if b == 0x3E && content.take 2 == [0x5D, 0x5D] then
      l.finishMarked "![CDATA[" .unclosedCData content
    else l.stay (.characterData (b :: content))
  | .doctype depth content =>
    if b == 0x3E then
      match depth with
      | 0 => l.finishDoctype content.reverse
      | depth + 1 => l.stay (.doctype depth (b :: content))
    else l.stay (.doctype (if b == 0x3C then depth + 1 else depth) (b :: content))

/-- The error when the document ends within an item. -/
def Mode.cutShort : Mode → Option SyntaxError
  | .text _ => none
  | .opened | .tag _ _ => some .unclosedTag
  | .instruction _ => some .unclosedInstruction
  | .bang => some .invalidBang
  | .comment _ => some .unclosedComment
  | .characterData _ => some .unclosedCData
  | .doctype _ _ => some .unclosedDoctype

/-- The fault at the end of what is delivered. -/
def stop (l : Lexer) (failure : Option String) : Option Fault :=
  match failure with
  | some text => some ⟨l.start, .source text⟩
  | none => (Mode.cutShort l.mode).map fun e => ⟨l.start, .syntactic e⟩

/-- Reads what is left; `failure` is how the feed ends. -/
def read (failure : Option String) (l : Lexer) : List UInt8 → Reading
  | [] => ⟨[], l.stop failure⟩
  | b :: rest =>
    match l.step b with
    | .more l => read failure l rest
    | .item i l => (read failure l rest).cons i
    | .fault f => ⟨[], some f⟩

end Lexer

end BindingCoverage.Xml
