import BindingCoverage.Host.CharKind

/-!
# Patterns

Patterns for texts and for names of files: `*`, `?` and sets of characters in brackets. A quoted
character stands for itself, and so does one after a backslash.
-/

namespace BindingCoverage.Host.Shell

/-- A character of an expanded word, and whether it is quoted. -/
structure Cell where
  char : Char
  isQuoted : Bool
  deriving DecidableEq, Repr

namespace Pattern

/-! ## Elements -/

inductive Element where
  | char (c : Char)
  | any
  | many
  | set (isNegated : Bool) (items : List CharKind.Item)
  deriving DecidableEq, Repr

/-- The name of a kind after an opening `[:`, and what comes after its `:]`. -/
def kindName? (s : List Cell) : Option (String × List Cell) :=
  let name := s.takeWhile (·.char.isAlpha)
  let text := String.ofList (name.map (·.char))
  match s.drop name.length with
  | ⟨':', _⟩ :: ⟨']', _⟩ :: rest => if CharKind.names.contains text then some (text, rest) else none
  | _ => none

/-! ## Reading a pattern -/

/-- A character of a set, which may stand after a backslash. -/
def member (s : List Cell) : Option (Char × List Cell) :=
  match s with
  | ⟨'\\', false⟩ :: c :: rest => some (c.char, rest)
  | c :: rest => some (c.char, rest)
  | [] => none

/-- The items of a set up to the bracket that closes it, at least one. -/
def items (fuel : Nat) (isFirst : Bool) (s : List Cell) : Option (List CharKind.Item × List Cell) :=
  match fuel with
  | 0 => none
  | fuel + 1 =>
    match s with
    | [] => none
    | ⟨']', false⟩ :: rest =>
      if isFirst then more fuel (']', rest) else some ([], rest)
    | ⟨'[', false⟩ :: ⟨':', false⟩ :: rest =>
      match kindName? rest with
      | some (name, rest) => do
        let (others, rest) ← items fuel false rest
        return (.kind name :: others, rest)
      | none => more fuel ('[', ⟨':', false⟩ :: rest)
    | s => do more fuel (← member s)
where
  /-- A range, or a single character. -/
  more (fuel : Nat) : Char × List Cell → Option (List CharKind.Item × List Cell)
    | (low, rest) =>
      match fuel, rest with
      | 0, _ => none
      | fuel + 1, ⟨'-', false⟩ :: next :: rest =>
        if next = ⟨']', false⟩ then do
          let (others, rest) ← items fuel false (⟨'-', false⟩ :: next :: rest)
          return (.range low low :: others, rest)
        else do
          let (high, rest) ← member (next :: rest)
          let (others, rest) ← items fuel false rest
          return (.range low high :: others, rest)
      | fuel + 1, rest => do
        let (others, rest) ← items fuel false rest
        return (.range low low :: others, rest)

/-- The set after an opening bracket, if the bracket is closed. -/
def set? (s : List Cell) : Option (Element × List Cell) :=
  let (isNegated, s) : Bool × List Cell :=
    match s with
    | ⟨'!', false⟩ :: rest => (true, rest)
    | s => (false, s)
  (items (2 * s.length + 2) true s).map fun (is, rest) => (.set isNegated is, rest)

/-- The elements of a pattern. -/
def elementsFrom : Nat → List Cell → List Element
  | 0, _ | _, [] => []
  | fuel + 1, ⟨c, true⟩ :: rest => .char c :: elementsFrom fuel rest
  | fuel + 1, ⟨'*', false⟩ :: rest => .many :: elementsFrom fuel rest
  | fuel + 1, ⟨'?', false⟩ :: rest => .any :: elementsFrom fuel rest
  | fuel + 1, ⟨'\\', false⟩ :: c :: rest => .char c.char :: elementsFrom fuel rest
  | fuel + 1, ⟨'[', false⟩ :: rest =>
    match set? rest with
    | some (set, rest) => set :: elementsFrom fuel rest
    | none => .char '[' :: elementsFrom fuel rest
  | fuel + 1, ⟨c, false⟩ :: rest => .char c :: elementsFrom fuel rest

def elements (cells : List Cell) : List Element := elementsFrom cells.length cells

/-! ## Matching -/

def matchesAll : List Element → List Char → Bool
  | [], s => s.isEmpty
  | .char c :: p, d :: s => c == d && matchesAll p s
  | .any :: p, _ :: s => matchesAll p s
  | .set isNegated is :: p, c :: s => (is.any (·.holds c) != isNegated) && matchesAll p s
  | .many :: p, [] => matchesAll p []
  | .many :: p, c :: s => matchesAll p (c :: s) || matchesAll (.many :: p) s
  | _ :: _, [] => false
termination_by p s => (p.length, s.length)

/-- Whether a text matches a pattern. -/
def isMatch (cells : List Cell) (s : List Char) : Bool := matchesAll (elements cells) s

/-- Drops a match from the start of a text. -/
def dropStart (longest : Bool) (cells : List Cell) (s : List Char) : List Char :=
  let p := elements cells
  let lengths := List.range (s.length + 1)
  let lengths := if longest then lengths.reverse else lengths
  match lengths.find? fun n => matchesAll p (s.take n) with
  | some n => s.drop n
  | none => s

/-- Drops a match from the end of a text. -/
def dropEnd (longest : Bool) (cells : List Cell) (s : List Char) : List Char :=
  let p := elements cells
  let lengths := List.range (s.length + 1)
  let lengths := if longest then lengths else lengths.reverse
  match lengths.find? fun n => matchesAll p (s.drop n) with
  | some n => s.take n
  | none => s

/-- Whether a word may stand for names of files. -/
def isActive : List Cell → Bool
  | [] => false
  | ⟨'*', false⟩ :: _ | ⟨'?', false⟩ :: _ => true
  | ⟨'[', false⟩ :: rest => rest.any (·.char == ']') || isActive rest
  | _ :: rest => isActive rest

end Pattern

end BindingCoverage.Host.Shell
