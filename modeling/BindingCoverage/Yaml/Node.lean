import BindingCoverage.Yaml.Lexer

/-!
# Documents

A text holds at most one document, and a document is one node. A node that is given a name also gets
a number: how many names there were before it. So a name that is given again leaves the next node
with a name the same number. An alias stands for a number, and a number for the last node with it,
even if that comes after the alias or encloses it.
-/

namespace BindingCoverage.Yaml

inductive Node where
  | scalar (style : Style) (tag : Option String) (text : String)
  | sequence (items : List Node)
  | mapping (entries : List (Node × Node))
  /-- An alias for the last node with the given number. -/
  | reference (number : Nat)
  deriving Repr

/-- What stands where a node is left out. -/
def Node.absent : Node := .scalar .plain none ""

/-- What is known of a node with a name when it starts. -/
structure Anchor where
  /-- The number of nodes with a name that start before it. -/
  place : Nat
  number : Nat
  deriving DecidableEq, Repr

structure Document where
  root : Node
  /-- The nodes with a name. -/
  named : List (Anchor × Node)
  deriving Repr

/-- The last node with a number. -/
def Document.target? (d : Document) (number : Nat) : Option Node :=
  let later (best : Option (Anchor × Node)) (next : Anchor × Node) : Option (Anchor × Node) :=
    if next.1.number = number && best.all (·.1.place < next.1.place) then some next else best
  (d.named.foldl later none).map (·.2)

/-- A node, or what it stands for. -/
def Document.follow (d : Document) (n : Node) : Node :=
  match n with
  | .reference number => (d.target? number).getD n
  | _ => n

structure Reading where
  tokens : List Token
  /-- The names given so far, each with the number that an alias for it has. -/
  numbers : List (String × Nat) := []
  /-- How many times a name was given. -/
  places : Nat := 0
  /-- The complete nodes with a name. -/
  named : List (Anchor × Node) := []
  /-- Handles of tags and what they stand for. -/
  handles : List (String × String) := []

abbrev Reader := StateT Reading Option

namespace Reader

def peek : Reader (Option Token) := return (← get).tokens.head?

def skip : Reader Unit := modify fun r => { r with tokens := r.tokens.drop 1 }

def fail {α : Type} : Reader α := fun _ => none

/-- Reads the given token, if it comes next. -/
def accept (t : Token) : Reader Bool := do
  if (← peek) == some t then
    skip
    return true
  else return false

/-- Reads the given token, which must come next. -/
def expect (t : Token) : Reader Unit := do
  if !(← accept t) then fail

def nextIsAny (ts : List Token) : Reader Bool := return (← peek).any (ts.contains ·)

/-- Gives a name to a node that starts here. -/
def open? (name : Option String) : Reader (Option Anchor) := do
  match name with
  | none => return none
  | some name =>
    let r ← get
    let anchor : Anchor := ⟨r.places, r.numbers.length⟩
    set { r with
      places := r.places + 1
      numbers := (name, anchor.number) :: r.numbers.filter (·.1 != name) }
    return some anchor

/-- A node is complete. -/
def close (anchor : Option Anchor) (node : Node) : Reader Node := do
  if let some anchor := anchor then
    modify fun r => { r with named := (anchor, node) :: r.named }
  return node

def aliased (name : String) : Reader Node := do
  match (← get).numbers.find? (·.1 == name) with
  | none => fail
  | some (_, number) => return .reference number

/-- The tag that a handle and a suffix write. -/
def resolve (handle suffix : String) : Reader String := do
  if handle.isEmpty then return suffix
  match (← get).handles.find? (·.1 == handle) with
  | some (_, start) => return start ++ suffix
  | none => fail

/-- The name and the tag before a node, in any order. -/
def properties : Reader (Option String × Option String) := do
  match ← peek with
  | some (.anchor name) =>
    skip
    match ← peek with
    | some (.tag handle suffix) =>
      skip
      return (some name, some (← resolve handle suffix))
    | _ => return (some name, none)
  | some (.tag handle suffix) =>
    skip
    match ← peek with
    | some (.anchor name) =>
      skip
      return (some name, some (← resolve handle suffix))
    | _ => return (none, some (← resolve handle suffix))
  | _ => return (none, none)

mutual

/-- A node. Block collections may start here if `block`, and a block sequence without indentation
of its own if `indentless`. -/
def node : Nat → Bool → Bool → Reader Node
  | 0, _, _ => fail
  | fuel + 1, block, indentless => do
    if let some (.reference name) ← peek then
      skip
      return ← aliased name
    let (name, tag) ← properties
    let anchor ← open? name
    match ← peek, block, indentless with
    | some .blockEntry, _, true => close anchor (.sequence (← indentlessItems fuel))
    | some (.scalar style text), _, _ =>
      skip
      close anchor (.scalar style tag text)
    | some .flowSequenceStart, _, _ =>
      skip
      close anchor (.sequence (← flowItems fuel true))
    | some .flowMappingStart, _, _ =>
      skip
      close anchor (.mapping (← flowPairs fuel true))
    | some .blockSequenceStart, true, _ =>
      skip
      close anchor (.sequence (← blockItems fuel))
    | some .blockMappingStart, true, _ =>
      skip
      close anchor (.mapping (← blockPairs fuel))
    | _, _, _ =>
      if name.isSome || tag.isSome then close anchor (.scalar .plain tag "") else fail

/-- A node, unless one of the given tokens comes first. -/
def nodeUnless : Nat → Bool → Bool → List Token → Reader Node
  | 0, _, _, _ => fail
  | fuel + 1, block, indentless, ends => do
    if ← nextIsAny ends then return .absent
    node fuel block indentless

def blockItems : Nat → Reader (List Node)
  | 0 => fail
  | fuel + 1 => do
    if ← accept .blockEntry then
      let item ← nodeUnless fuel true false [.blockEntry, .blockEnd]
      return item :: (← blockItems fuel)
    expect .blockEnd
    return []

def indentlessItems : Nat → Reader (List Node)
  | 0 => fail
  | fuel + 1 => do
    if ← accept .blockEntry then
      let item ← nodeUnless fuel true false [.blockEntry, .key, .value, .blockEnd]
      return item :: (← indentlessItems fuel)
    return []

def blockPairs : Nat → Reader (List (Node × Node))
  | 0 => fail
  | fuel + 1 => do
    if ← accept .key then
      let key ← nodeUnless fuel true true [.key, .value, .blockEnd]
      let value ← blockValue fuel
      return (key, value) :: (← blockPairs fuel)
    expect .blockEnd
    return []

def blockValue : Nat → Reader Node
  | 0 => fail
  | fuel + 1 => do
    if ← accept .value then nodeUnless fuel true true [.key, .value, .blockEnd]
    else return .absent

def flowItems : Nat → Bool → Reader (List Node)
  | 0, _ => fail
  | fuel + 1, first => do
    if ← accept .flowSequenceEnd then return []
    if !first then expect .flowEntry
    if ← accept .key then
      let item ← singlePair fuel
      return item :: (← flowItems fuel false)
    if ← accept .flowSequenceEnd then return []
    let item ← node fuel false false
    return item :: (← flowItems fuel false)

/-- A mapping of one pair within a flow sequence, after the mark of its key. Where the key is left
out, the token after that mark does not count. -/
def singlePair : Nat → Reader Node
  | 0 => fail
  | fuel + 1 => do
    let key ←
      if ← nextIsAny [.value, .flowEntry, .flowSequenceEnd] then do
        skip
        pure Node.absent
      else node fuel false false
    let value ←
      if ← accept .value then nodeUnless fuel false false [.flowEntry, .flowSequenceEnd]
      else pure .absent
    return .mapping [(key, value)]

def flowPairs : Nat → Bool → Reader (List (Node × Node))
  | 0, _ => fail
  | fuel + 1, first => do
    if ← accept .flowMappingEnd then return []
    if !first then expect .flowEntry
    if ← accept .key then
      let key ← nodeUnless fuel false false [.value, .flowEntry, .flowMappingEnd]
      let value ←
        if ← accept .value then nodeUnless fuel false false [.flowEntry, .flowMappingEnd]
        else pure .absent
      return (key, value) :: (← flowPairs fuel false)
    if ← accept .flowMappingEnd then return []
    let key ← node fuel false false
    return (key, .absent) :: (← flowPairs fuel false)

end

/-- The directives before a document; says whether there was one. -/
def directives (version : Bool) : Nat → Reader Bool
  | 0 => fail
  | fuel + 1 => do
    match ← peek with
    | some (.versionDirective major minor) =>
      if version || major != 1 || (minor != 1 && minor != 2) then fail
      skip
      discard (directives true fuel)
      return true
    | some (.tagDirective handle start) =>
      if (← get).handles.any (·.1 == handle) then fail
      modify fun r => { r with handles := (handle, start) :: r.handles }
      skip
      discard (directives version fuel)
      return true
    | _ => return false

/-- Handles that have a meaning without a directive. -/
def standardHandles : List (String × String) := [("!", "!"), ("!!", "tag:yaml.org,2002:")]

/-- All of a text. An empty text has no document. -/
def document : Reader (Option Document) := do
  let fuel := 4 * (← get).tokens.length + 8
  if (← peek).isNone then return none
  let found ← directives false fuel
  modify fun r => { r with handles := r.handles ++ standardHandles }
  let root ←
    if ← accept .documentStart then
      match ← peek with
      | none | some (.versionDirective _ _) | some (.tagDirective _ _) | some .documentStart
      | some .documentEnd => pure Node.absent
      | _ => node fuel true false
    else if found then fail
    else node fuel true false
  modify fun r => { r with tokens := r.tokens.dropWhile (· == .documentEnd) }
  if (← peek).isSome then fail
  return some ⟨root, (← get).named⟩

end Reader

/-- The document of a text; `some none` stands for a text without one. -/
def parse (text : String) : Option (Option Document) := do
  let ts ← tokens text.toList
  let (document, _) ← Reader.document.run { tokens := ts.toList }
  return document

end BindingCoverage.Yaml
