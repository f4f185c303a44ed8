import BindingCoverage.Host.Shell.Pattern

/-!
# Fields

What a word expands to, before it is split into fields: pieces of text, of which only those from
expansions that are not quoted are split. A field may be empty only if something in it was quoted,
or if separators that are no blanks stand on both sides of it.
-/

namespace BindingCoverage.Host.Shell

inductive Piece where
  /-- Text that is not split and may be part of a pattern. -/
  | plain (text : String)
  /-- Quoted text. -/
  | literal (text : String)
  /-- The value of an expansion. -/
  | value (text : String)
  /-- The values of all parameters, each a field of its own. -/
  | parameters (values : List String)
  /-- The values of all parameters, each split further. -/
  | values (values : List String)
  deriving DecidableEq, Repr

namespace Piece

/-- The cells of a piece that is not split; `separator` stands between parameters. -/
def cells (separator : String) : Piece → List Cell
  | .plain s | .value s => s.toList.map (⟨·, false⟩)
  | .literal s => s.toList.map (⟨·, true⟩)
  | .parameters vs => (separator.intercalate vs).toList.map (⟨·, true⟩)
  | .values vs => (separator.intercalate vs).toList.map (⟨·, false⟩)

end Piece

/-- The cells of pieces that are not split. -/
def cellsOf (pieces : List Piece) : List Cell := pieces.flatMap (·.cells " ")

/-- The text of cells. -/
def textOfCells (cells : List Cell) : String := String.ofList (cells.map (·.char))

/-- The text of pieces that are not split. -/
def textOf (pieces : List Piece) : String := textOfCells (cellsOf pieces)

/-! ## Splitting -/

structure Splitting where
  /-- The fields that are complete, the last one first. -/
  done : List (List Cell) := []
  /-- The cells of the field under way, the last one first. -/
  current : List Cell := []
  /-- Whether something empty in the field was quoted. -/
  isMarked : Bool := false
  /-- Whether a separator that is a blank has just ended a field. -/
  afterBlank : Bool := false
  /-- Whether the last expansion was that of all parameters, each a field of its own. -/
  afterParameters : Bool := false
  deriving DecidableEq, Repr

namespace Splitting

def isUnbegun (s : Splitting) : Bool := s.current.isEmpty && !s.isMarked

/-- Ends the field under way. -/
def cut (s : Splitting) : Splitting :=
  { s with done := s.current.reverse :: s.done, current := [], isMarked := false }

def push (s : Splitting) (isQuoted : Bool) (text : List Char) : Splitting :=
  { s with current := text.foldl (fun cs c => ⟨c, isQuoted⟩ :: cs) s.current }

/-- A separator, which may be a blank. -/
def separate (wasAfterParameters isBlank : Bool) (s : Splitting) : Splitting :=
  if s.afterBlank then { s with afterBlank := isBlank }
  else
    let s := if wasAfterParameters then s else { s with afterBlank := isBlank }
    if s.isUnbegun && s.afterBlank then { s with afterBlank := false } else s.cut

/-- A character of the value of an expansion. -/
def char (separators : List Char) (wasAfterParameters : Bool) (s : Splitting) (c : Char) :
    Splitting :=
  if separators.contains c then
    s.separate wasAfterParameters (c == ' ' || c == '\t' || c == '\n')
  else { s with afterBlank := false, current := ⟨c, false⟩ :: s.current }

/-- The values of all parameters with a separator between any two. -/
def eachOf (one : Splitting → String → Splitting) (between : Splitting → Splitting) :
    Splitting → List String → Splitting
  | s, [] => s
  | s, [v] => one s v
  | s, v :: vs => eachOf one between (between (one s v)) vs

def piece (separators : List Char) (s : Splitting) (p : Piece) : Splitting :=
  match p with
  | .plain text => s.push false text.toList
  | .literal text =>
    { s.push true text.toList with isMarked := true }
  | .value text =>
    let before := s.afterParameters
    text.toList.foldl (char separators before)
      { s with afterBlank := false, afterParameters := false }
  | .values vs =>
    let before := s.afterParameters
    eachOf (fun s v => v.toList.foldl (char separators before) s) (separate before true)
      { s with afterBlank := false, afterParameters := false } vs
  | .parameters vs =>
    eachOf (fun s v => { s.push true v.toList with isMarked := true }) cut
      { s with afterBlank := false, afterParameters := true } vs

end Splitting

/-- The fields of pieces. -/
def fieldsOf (separators : String) (pieces : List Piece) : List (List Cell) :=
  let s := pieces.foldl (Splitting.piece separators.toList) {}
  (if s.isUnbegun then s else s.cut).done.reverse

end BindingCoverage.Host.Shell
