import BindingCoverage.Host.CharKind

/-!
# Regular expressions

Expressions for parts of a text, and the parts that match them. Of all parts that match, the one
that begins first counts, and of those the longest one. What the groups of an expression match is
settled from left to right, each part being as long as it can be.
-/

namespace BindingCoverage.Host

inductive Regex where
  | empty
  | char (c : Char)
  | any
  | set (isNegated : Bool) (items : List CharKind.Item)
  | lineStart
  | lineEnd
  | textStart
  | textEnd
  | wordStart
  | wordEnd
  /-- Where a word begins or ends, or where none does. -/
  | wordBound (isNegated : Bool)
  | sequence (first second : Regex)
  | either (first second : Regex)
  /-- Any number of times. -/
  | many (r : Regex)
  /-- A number of times between two bounds. -/
  | repeated (r : Regex) (least : Nat) (most : Nat)
  | group (number : Nat) (r : Regex)
  /-- The same text as a group before. -/
  | same (group : Nat)
  deriving DecidableEq, Repr

namespace Regex

/-- A text in which matches are looked for. -/
structure Subject where
  text : Array Char
  /-- Whether small and capital letters are the same. -/
  foldsCase : Bool := false
  /-- Whether every line of the text counts by itself. -/
  hasLines : Bool := false

/-- Where a match ends, and where the groups in it begin and end. -/
structure Found where
  stop : Nat
  groups : List (Nat × Nat × Nat) := []
  deriving DecidableEq, Repr

namespace Found

/-- The bounds of a group. -/
def group? (f : Found) (number : Nat) : Option (Nat × Nat) :=
  (f.groups.find? (·.1 == number)).map (·.2)

def withGroup (f : Found) (number start : Nat) : Found :=
  { f with groups := (number, start, f.stop) :: f.groups.filter (·.1 != number) }

end Found

namespace Subject

def equal (s : Subject) (a b : Char) : Bool :=
  a == b || (s.foldsCase && a.toLower == b.toLower)

/-- Whether a character belongs to a set. -/
def holds (s : Subject) (isNegated : Bool) (items : List CharKind.Item) (c : Char) : Bool :=
  let among (c : Char) : Bool := items.any (·.holds c)
  (among c || (s.foldsCase && (among c.toLower || among c.toUpper))) != isNegated

def wordAt (s : Subject) (i : Nat) : Bool := (s.text[i]?).any CharKind.isWord

def wordBefore (s : Subject) (i : Nat) : Bool := 0 < i && s.wordAt (i - 1)

/-- Whether the same characters stand in two places. -/
def repeats (s : Subject) (start length place : Nat) : Bool :=
  place + length ≤ s.text.size &&
    (List.range length).all fun k =>
      match s.text[start + k]?, s.text[place + k]? with
      | some a, some b => s.equal a b
      | _, _ => false

/-- The condition for the character after a place, if the expression is one for one character. -/
def single? (s : Subject) : Regex → Option (Char → Bool)
  | .char c => some (s.equal c)
  | .any => some fun _ => true
  | .set isNegated items => some (s.holds isNegated items)
  | _ => none

/-- Whether a place is fit for an expression that stands for no character. -/
def fits (s : Subject) (i : Nat) : Regex → Bool
  | .lineStart => i == 0 || (s.hasLines && s.text[i - 1]? == some '\n')
  | .lineEnd => i == s.text.size || (s.hasLines && s.text[i]? == some '\n')
  | .textStart => i == 0
  | .textEnd => i == s.text.size
  | .wordStart => s.wordAt i && !s.wordBefore i
  | .wordEnd => s.wordBefore i && !s.wordAt i
  | .wordBound isNegated => (s.wordBefore i != s.wordAt i) != isNegated
  | _ => true

end Subject

/-- Whether an expression asks for a text that a group matched. -/
def refersBack : Regex → Bool
  | .same _ => true
  | .sequence a b | .either a b => a.refersBack || b.refersBack
  | .many r | .repeated r _ _ | .group _ r => r.refersBack
  | _ => false

/-! ## Matching -/

/-- Whether two matches need not be told apart. -/
def alike (isExact : Bool) (a b : Found) : Bool := if isExact then a == b else a.stop == b.stop

/-- The first of each kind of alike matches. -/
def distinct (isExact : Bool) : List Found → List Found → List Found
  | seen, [] => seen.reverse
  | seen, f :: rest =>
    distinct isExact (if seen.any (alike isExact f) then seen else f :: seen) rest

/-- Matches in their order, the longest first. -/
def ordered (isExact : Bool) (fs : List Found) : List Found :=
  match fs with
  | [] | [_] => fs
  | _ => (distinct isExact [] fs).mergeSort fun a b => b.stop ≤ a.stop

/-- Everything that a step leads to when it is repeated as often as one likes, and what was seen
already. Each step has to go on in the text. -/
def explore (isExact : Bool) (step : Found → List Found) : Nat → List Found → Found → List Found
  | 0, seen, _ => seen
  | fuel + 1, seen, f =>
    if seen.any (alike isExact f) then seen
    else
      f :: ((step f).filter (f.stop < ·.stop)).foldl (explore isExact step fuel) seen

/-- The places that one character after the other leads to, the last one first. -/
def run (s : Subject) (test : Char → Bool) (groups : List (Nat × Nat × Nat)) :
    Nat → Nat → List Found → List Found
  | 0, i, found => ⟨i, groups⟩ :: found
  | fuel + 1, i, found =>
    if (s.text[i]?).any test then run s test groups fuel (i + 1) (⟨i, groups⟩ :: found)
    else ⟨i, groups⟩ :: found

/-- A step a number of times, and then up to another number of times more. -/
def times (isExact : Bool) (step : Found → List Found) : Nat → Nat → List Found → List Found
  | 0, 0, fs => fs
  | 0, extra + 1, fs =>
    let longer := times isExact step 0 extra (ordered isExact (fs.flatMap step))
    ordered isExact (longer ++ fs)
  | least + 1, extra, fs => times isExact step least extra (ordered isExact (fs.flatMap step))

/-- The matches from a place, the longest first. -/
def ends (s : Subject) (isExact : Bool) : Regex → Found → List Found
  | .sequence a b, f => ordered isExact ((ends s isExact a f).flatMap (ends s isExact b))
  | .either a b, f => ordered isExact (ends s isExact a f ++ ends s isExact b f)
  | .many r, f =>
    match s.single? r with
    | some test => run s test f.groups (s.text.size - f.stop) f.stop []
    | none =>
      let found := explore isExact (ends s isExact r) (s.text.size + 1) [] f
      found.mergeSort fun a b => b.stop ≤ a.stop
  | .repeated r least most, f => times isExact (ends s isExact r) least (most - least) [f]
  | .group n r, f => (ends s isExact r f).map (·.withGroup n f.stop)
  | .same n, f =>
    match f.group? n with
    | some (start, stop) =>
      if s.repeats start (stop - start) f.stop then [{ f with stop := f.stop + (stop - start) }]
      else []
    | none => []
  | r, f =>
    match s.single? r with
    | some test => if (s.text[f.stop]?).any test then [{ f with stop := f.stop + 1 }] else []
    | none => if s.fits f.stop r then [f] else []

/-- A part of a text that matches. -/
structure Match where
  start : Nat
  stop : Nat
  groups : List (Nat × Nat × Nat)
  deriving DecidableEq, Repr

namespace Match

/-- The bounds of a group; the whole match is group zero. -/
def group? (m : Match) (number : Nat) : Option (Nat × Nat) :=
  if number = 0 then some (m.start, m.stop) else (m.groups.find? (·.1 == number)).map (·.2)

end Match

/-- The longest match at a place. -/
def matchAt? (r : Regex) (s : Subject) (isExact : Bool) (start : Nat) : Option Match :=
  (ends s isExact r ⟨start, []⟩).head?.map fun f => ⟨start, f.stop, f.groups⟩

/-- The first match that begins at one of so many places, from a place on. -/
def searchFrom (r : Regex) (s : Subject) (isExact : Bool) : Nat → Nat → Option Match
  | 0, _ => none
  | fuel + 1, start => (r.matchAt? s isExact start).or (searchFrom r s isExact fuel (start + 1))

/-- The first match that begins at a place or after it. -/
def search (r : Regex) (s : Subject) (start : Nat) : Option Match :=
  searchFrom r s r.refersBack (s.text.size + 1 - start) start

end Regex

end BindingCoverage.Host
