import BindingCoverage.Xml.Lexer

/-!
# Reading buffer after buffer

A source shows what it has in buffers. The end of the item under way is looked for in one buffer at
a time; if it is not there, the whole buffer belongs to the item, and the search goes on in the next
one. So the octets that end an item may be cut by the end of a buffer: the first of them are then
the last ones of what the item has so far.

* `Lexer.search`: the search for the end of the item under way.
* `Lexer.fill`: what a buffer brings.
* `Feed.unmarked`: a byte-order mark is looked for in the first buffer only.
-/

namespace BindingCoverage.Xml

/-! ## Searching a buffer -/

/-- How far a search has come in a buffer. What it has passed is held last octet first. -/
inductive Scan (σ : Type) where
  /-- To the end of the buffer. -/
  | through (passed : List UInt8) (state : σ)
  /-- To an octet after which there is a rest. -/
  | upTo (passed rest : List UInt8)

/-- Goes through a buffer up to the first octet at which there is no next state. -/
def scan {σ : Type} (next : σ → List UInt8 → UInt8 → Option σ) (state : σ) (passed : List UInt8) :
    List UInt8 → Scan σ
  | [] => .through passed state
  | b :: rest =>
    match next state passed b with
    | none => .upTo passed rest
    | some state => scan next state (b :: passed) rest

/-- How the end of an item is looked for, with a state that lasts from one buffer to the next. -/
structure Ending (σ : Type) where
  next : σ → List UInt8 → UInt8 → Option σ
  /-- The mode when there is no end yet, with the content up to there. -/
  mode : σ → List UInt8 → Mode
  /-- What the octet leads to at which the item ends. -/
  close : Lexer → List UInt8 → Lexer.Step

/-- Whether `b` stands twice before a place, where `passed` is what the buffer has before that place
and `content` what the item has from earlier buffers. -/
def isDoubled (b : UInt8) (content passed : List UInt8) : Bool :=
  match passed with
  | [] => content.take 2 == [b, b]
  | [x] => x == b && content.head? == some b
  | x :: y :: _ => x == b && y == b

namespace Ending

/-- Text ends at an opening bracket. -/
def text (seen : Bool) : Ending Unit where
  next _ _ b := if b == 0x3C then none else some ()
  mode _ content := .text (seen || !content.isEmpty)
  close l content :=
    if seen || !content.isEmpty then .item ⟨l.start, .aside⟩ ⟨.opened, l.offset, l.offset + 1⟩
    else l.stay .opened

/-- A closing bracket, where `ends` says whether the octets before it make it the end. -/
def bracket (ends : List UInt8 → Bool) (mode : List UInt8 → Mode)
    (close : Lexer → List UInt8 → Lexer.Step) : Ending Unit where
  next _ passed b := if b == 0x3E && ends passed then none else some ()
  mode _ := mode
  close := close

def instruction (content : List UInt8) : Ending Unit :=
  bracket
    (fun passed => (match passed with
      | [] => content.head?
      | x :: _ => some x) == some 0x3F)
    .instruction Lexer.finishInstruction

def comment (content : List UInt8) : Ending Unit :=
  bracket
    (fun passed => 4 < content.length + passed.length && isDoubled 0x2D content passed)
    .comment (Lexer.finishMarked · "!--" .unclosedComment)

def characterData (content : List UInt8) : Ending Unit :=
  bracket (isDoubled 0x5D content) .characterData (Lexer.finishMarked · "![CDATA[" .unclosedCData)

/-- A closing bracket outside of quotations. -/
def tag : Ending (Option UInt8) where
  next quote _ b :=
    match quote with
    | some q => some (if b == q then none else some q)
    | none =>
      if b == 0x3E then none else some (if b == 0x22 || b == 0x27 then some b else none)
  mode := .tag
  close l content := l.finish (.ofTag content.reverse)

/-- A closing bracket that closes none of the brackets within. -/
def doctype : Ending Nat where
  next depth _ b :=
    if b == 0x3C then some (depth + 1)
    else if b == 0x3E then
      match depth with
      | 0 => none
      | depth + 1 => some depth
    else some depth
  mode := .doctype
  close l content := l.finishDoctype content.reverse

end Ending

namespace Lexer

/-- The lexer after some more octets of the item under way. -/
def past (l : Lexer) (passed : List UInt8) (mode : Mode) : Lexer :=
  ⟨mode, l.start, l.offset + passed.length⟩

/-- Looks for an end in a buffer, and says what follows that end. -/
def seek {σ : Type} (l : Lexer) (e : Ending σ) (state : σ) (content buffer : List UInt8) :
    Step × List UInt8 :=
  match scan e.next state [] buffer with
  | .through passed state =>
    let content := passed ++ content
    (.more (l.past passed (e.mode state content)), [])
  | .upTo passed rest => (e.close (l.past passed l.mode) (passed ++ content), rest)

/-- Looks for the end of the item under way in a buffer that begins with `b`. The first octet after
an opening bracket, and the one after an exclamation mark, say what is looked for. -/
def search (l : Lexer) (b : UInt8) (rest : List UInt8) : Step × List UInt8 :=
  match l.mode with
  | .text seen => l.seek (.text seen) () [] (b :: rest)
  | .opened =>
    if b == 0x21 then (l.stay .bang, rest)
    else if b == 0x3F then l.seek (.instruction []) () [] (b :: rest)
    else l.seek .tag none [] (b :: rest)
  | .tag quote content => l.seek .tag quote content (b :: rest)
  | .instruction content => l.seek (.instruction content) () content (b :: rest)
  | .bang =>
    if b == 0x2D then l.seek (.comment [0x21]) () [0x21] (b :: rest)
    else if b == 0x5B then l.seek (.characterData [0x21]) () [0x21] (b :: rest)
    else if b == 0x44 || b == 0x64 then l.seek .doctype 0 [0x21] (b :: rest)
    else (l.refuse (.syntactic .invalidBang), [])
  | .comment content => l.seek (.comment content) () content (b :: rest)
  | .characterData content => l.seek (.characterData content) () content (b :: rest)
  | .doctype depth content => l.seek .doctype depth content (b :: rest)

/-- The reading that a step begins. -/
def Step.before (s : Step) (next : Lexer → Reading) : Reading :=
  match s with
  | .more l => next l
  | .item i l => (next l).cons i
  | .fault f => ⟨[], some f⟩

/-- Reads a buffer, and then what is `next`. Every search takes at least one octet. -/
def fillFrom (next : Lexer → Reading) : Nat → Lexer → List UInt8 → Reading
  | size + 1, l, b :: rest =>
    let (step, rest) := l.search b rest
    step.before fun l => fillFrom next size l rest
  | _, l, _ => next l

def fill (next : Lexer → Reading) (l : Lexer) (buffer : List UInt8) : Reading :=
  l.fillFrom next buffer.length buffer

/-- Reads what is delivered; `failure` is how the feed ends. After an interruption the request is
made again. -/
def readDeliveries (failure : Option String) : List Delivery → Lexer → Reading
  | [], l => ⟨[], l.stop failure⟩
  | .interrupted :: rest, l => readDeliveries failure rest l
  | .buffer octets :: rest, l => l.fill (readDeliveries failure rest) octets

end Lexer

/-- The deliveries without a byte-order mark. -/
def Feed.unmarked : List Delivery → List Delivery
  | [] => []
  | .interrupted :: rest => .interrupted :: unmarked rest
  | .buffer octets :: rest =>
    .buffer
        (if byteOrderMark.isPrefixOf octets then octets.drop byteOrderMark.length else octets) ::
      rest

/-- The items of a document, whatever their nesting. -/
def Reading.flat (feed : Feed) : Reading :=
  Lexer.initial.readDeliveries feed.failure (Feed.unmarked feed.deliveries)

end BindingCoverage.Xml
