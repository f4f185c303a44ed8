import BindingCoverage.Host.Number
import BindingCoverage.Host.Regex.Basic

/-!
# Reading regular expressions

There are two ways to write a regular expression. In a basic one, groups, choices and bounds are
written with backslashes, and a star stands for itself where there is nothing to repeat. In an
extended one they are written without.
-/

namespace BindingCoverage.Host.Regex

/-- What is wrong with an expression. -/
inductive Fault where
  | invalid
  | unmatchedGroup
  | unmatchedEnd
  | unmatchedBracket
  | unmatchedBound
  | invalidBound
  | nothingToRepeat
  | trailingBackslash
  | invalidReference
  | invalidRange
  | invalidKind
  | tooBig
  deriving DecidableEq, Repr

def Fault.message : Fault → String
  | .invalid => "Invalid regular expression"
  | .unmatchedGroup => "Unmatched ( or \\("
  | .unmatchedEnd => "Unmatched ) or \\)"
  | .unmatchedBracket => "Unmatched [, [^, [:, [., or [="
  | .unmatchedBound => "Unmatched \\\x7b"
  | .invalidBound => "Invalid content of \\\x7b\\\x7d"
  | .nothingToRepeat => "Invalid preceding regular expression"
  | .trailingBackslash => "Trailing backslash"
  | .invalidReference => "Invalid back reference"
  | .invalidRange => "Invalid range end"
  | .invalidKind => "Invalid character class name"
  | .tooBig => "Regular expression too big"

/-- How expressions are written. -/
structure Style where
  isExtended : Bool
  /-- Whether a repetition of nothing is an error. -/
  isStrict : Bool := false
  deriving DecidableEq, Repr

inductive Token where
  | piece (r : Regex)
  | opening
  | closing
  | bar
  | repetition (least : Nat) (most : Option Nat)
  deriving DecidableEq, Repr

/-! ## Sets -/

/-- A character of a set, or one between `[.` and `.]` or between `[=` and `=]`. -/
def setMember? : List Char → Option (Char × List Char)
  | '[' :: '.' :: c :: '.' :: ']' :: rest | '[' :: '=' :: c :: '=' :: ']' :: rest => some (c, rest)
  | c :: rest => some (c, rest)
  | [] => none

/-- The items of a set up to the bracket that closes it, at least one. -/
def setItems : Nat → Bool → List CharKind.Item → List Char →
    Except Fault (List CharKind.Item × List Char)
  | 0, _, _, _ | _, _, _, [] => .error .unmatchedBracket
  | _ + 1, false, items, ']' :: rest => .ok (items.reverse, rest)
  | fuel + 1, _, items, '[' :: ':' :: rest =>
    let name := rest.takeWhile (· != ':')
    match rest.drop name.length with
    | ':' :: ']' :: after =>
      let name := String.ofList name
      if CharKind.names.contains name then setItems fuel false (.kind name :: items) after
      else .error .invalidKind
    | _ => .error .unmatchedBracket
  | fuel + 1, _, items, s =>
    match setMember? s with
    | none => .error .unmatchedBracket
    | some (low, '-' :: c :: rest) =>
      if c = ']' then setItems fuel false (.range low low :: items) ('-' :: c :: rest)
      else
        match setMember? (c :: rest) with
        | none => .error .unmatchedBracket
        | some (high, rest) =>
          if high < low then .error .invalidRange
          else setItems fuel false (.range low high :: items) rest
    | some (c, rest) => setItems fuel false (.range c c :: items) rest

/-- A set after its opening bracket. -/
def readSet (s : List Char) : Except Fault (Regex × List Char) := do
  let (isNegated, s) : Bool × List Char :=
    match s with
    | '^' :: rest => (true, rest)
    | s => (false, s)
  if s.isEmpty then throw .invalid
  let (items, rest) ← setItems (s.length + 1) true [] s
  return (.set isNegated items, rest)

/-! ## Tokens -/

/-- The greatest bound of a repetition. -/
def greatestBound : Nat := 32767

/-- The bounds of a repetition up to what closes them. -/
def readBounds (style : Style) (s : List Char) :
    Except Fault ((Nat × Option Nat) × List Char) := do
  let first := s.takeWhile Char.isDigit
  let rest := s.drop first.length
  let (second, rest) : Option (List Char) × List Char :=
    match rest with
    | ',' :: more =>
      let digits := more.takeWhile Char.isDigit
      (some digits, more.drop digits.length)
    | rest => (none, rest)
  let after ←
    match style.isExtended, rest with
    | true, '\x7d' :: after | false, '\\' :: '\x7d' :: after => pure after
    | _, [] => throw .unmatchedBound
    | _, _ => throw .invalidBound
  if first.isEmpty && second.isNone then throw .invalidBound
  let least := valueIn 10 first
  let most :=
    match second with
    | none => some least
    | some [] => none
    | some digits => some (valueIn 10 digits)
  if most.any (· < least) then throw .invalidBound
  if greatestBound < least || most.any (greatestBound < ·) then throw .tooBig
  return ((least, most), after)

/-- What a letter after a backslash stands for in any expression. -/
def escapedPiece? (c : Char) : Option Regex :=
  let word : List CharKind.Item := [.kind "alnum", .range '_' '_']
  match c with
  | 'w' => some (.set false word)
  | 'W' => some (.set true word)
  | 's' => some (.set false [.kind "space"])
  | 'S' => some (.set true [.kind "space"])
  | 'b' => some (.wordBound false)
  | 'B' => some (.wordBound true)
  | '<' => some .wordStart
  | '>' => some .wordEnd
  | '\x60' => some .textStart
  | '\x27' => some .textEnd
  | _ => if '1' ≤ c && c ≤ '9' then some (.same (c.toNat - '0'.toNat)) else none

/-- Whether there is nothing before a place that could be repeated. -/
def isAtStart (style : Style) (before : Option Token) : Bool :=
  match before with
  | none | some .opening | some .bar => true
  | some (.piece .lineStart) => !style.isExtended
  | _ => false

/-- Whether a branch begins after a token. -/
def beginsBranch (before : Option Token) : Bool :=
  match before with
  | none | some .opening | some .bar => true
  | _ => false

/-- Whether a branch of a basic expression ends before a place. -/
def endsBranch : List Char → Bool
  | [] | '\\' :: ')' :: _ | '\\' :: '|' :: _ => true
  | _ => false

/-- The tokens of an expression after the ones before, which come last first. -/
def tokens (style : Style) : Nat → List Token → List Char → Except Fault (List Token)
  | 0, done, _ | _, done, [] => .ok done.reverse
  | fuel + 1, done, c :: rest =>
    let go (t : Token) (rest : List Char) : Except Fault (List Token) :=
      tokens style fuel (t :: done) rest
    let plain (c : Char) (rest : List Char) : Except Fault (List Token) :=
      go (.piece (.char c)) rest
    let bounds (rest : List Char) : Except Fault (List Token) := do
      let ((least, most), rest) ← readBounds style rest
      go (.repetition least most) rest
    let before := done.head?
    match c, style.isExtended with
    | '.', _ => go (.piece .any) rest
    | '[', _ => do
      let (r, rest) ← readSet rest
      go (.piece r) rest
    | '*', isExtended =>
      if !isExtended && isAtStart style before then plain '*' rest else go (.repetition 0 none) rest
    | '^', isExtended =>
      if isExtended || beginsBranch before then go (.piece .lineStart) rest else plain '^' rest
    | '$', isExtended =>
      if isExtended || endsBranch rest then go (.piece .lineEnd) rest else plain '$' rest
    | '+', true => go (.repetition 1 none) rest
    | '?', true => go (.repetition 0 (some 1)) rest
    | '(', true => go .opening rest
    | ')', true => go .closing rest
    | '|', true => go .bar rest
    | '\x7b', true =>
      match readBounds style rest with
      | .ok ((least, most), after) => go (.repetition least most) after
      | .error e => if style.isStrict then .error e else plain '\x7b' rest
    | '\\', isExtended =>
      match rest with
      | [] => .error .trailingBackslash
      | d :: after =>
        match escapedPiece? d with
        | some r => go (.piece r) after
        | none =>
          if isExtended then plain d after
          else
            match d with
            | '(' => go .opening after
            | ')' => go .closing after
            | '|' => go .bar after
            | '\x7b' => if isAtStart style before then .error .nothingToRepeat else bounds after
            | '+' =>
              if isAtStart style before then plain '+' after else go (.repetition 1 none) after
            | '?' =>
              if isAtStart style before then plain '?' after else go (.repetition 0 (some 1)) after
            | d => plain d after
    | c, _ => plain c rest

/-! ## Expressions -/

def repetition (r : Regex) (least : Nat) (most : Option Nat) : Regex :=
  match least, most with
  | 0, none => .many r
  | least, none => .sequence (.repeated r least least) (.many r)
  | least, some most => .repeated r least most

/-- What was read of an expression: the branches and the pieces before, the last one first. -/
structure Level where
  branches : List Regex := []
  pieces : List Regex := []

namespace Level

/-- The branch that the pieces make. -/
def branch (l : Level) : Regex :=
  match l.pieces with
  | [] => .empty
  | last :: before => before.foldl (fun r piece => .sequence piece r) last

/-- The whole expression. -/
def whole (l : Level) : Regex := l.branches.foldl (fun r b => .either b r) l.branch

def push (l : Level) (r : Regex) : Level := { l with pieces := r :: l.pieces }

end Level

/-- Puts tokens together: the level under way, the levels around it with the numbers of their
groups, the number of groups so far, and the groups that are closed. -/
def assemble (style : Style) (here : Level) (outer : List (Nat × Level)) (groups : Nat)
    (closed : List Nat) : List Token → Except Fault Regex
  | [] => if outer.isEmpty then .ok here.whole else .error .unmatchedGroup
  | .opening :: rest =>
    assemble style {} ((groups + 1, here) :: outer) (groups + 1) closed rest
  | .closing :: rest =>
    match outer with
    | (n, l) :: outer =>
      assemble style (l.push (.group n here.whole)) outer groups (n :: closed) rest
    | [] =>
      if style.isExtended && !style.isStrict then
        assemble style (here.push (.char ')')) outer groups closed rest
      else .error .unmatchedEnd
  | .bar :: rest => assemble style ⟨here.branch :: here.branches, []⟩ outer groups closed rest
  | .piece (.same n) :: rest =>
    if closed.contains n then assemble style (here.push (.same n)) outer groups closed rest
    else .error .invalidReference
  | .piece r :: rest => assemble style (here.push r) outer groups closed rest
  | .repetition least most :: rest =>
    match here.pieces with
    | [] =>
      if style.isStrict then .error .nothingToRepeat
      else assemble style here outer groups closed rest
    | last :: before =>
      assemble style { here with pieces := repetition last least most :: before } outer groups
        closed rest

/-- The expression that a text writes. -/
def ofText (style : Style) (s : List Char) : Except Fault Regex := do
  assemble style {} [] 0 [] (← tokens style s.length [] s)

/-- What is repeated without being there, by the signs of the repetitions. -/
def emptyRepetitions (before : Option Token) : List Token → List String
  | [] => []
  | t :: rest =>
    let others := emptyRepetitions (some t) rest
    let isEmpty :=
      match before with
      | none | some .opening | some .bar | some (.piece .lineStart) => true
      | _ => false
    match t, isEmpty with
    | .repetition 0 none, true => "*" :: others
    | .repetition 1 none, true => "+" :: others
    | .repetition 0 (some 1), true => "?" :: others
    | .repetition _ _, true => "\x7b...\x7d" :: others
    | _, _ => others

/-- What may be meant otherwise than it is written. -/
def warnings (style : Style) (s : List Char) : List String :=
  match tokens style s.length [] s with
  | .ok ts => (emptyRepetitions none ts).map (s!"{·} at start of expression")
  | .error _ => []

/-- How many groups an expression has. -/
def groupCount : Regex → Nat
  | .sequence a b | .either a b => max a.groupCount b.groupCount
  | .many r | .repeated r _ _ => r.groupCount
  | .group n r => max n r.groupCount
  | _ => 0

end BindingCoverage.Host.Regex
