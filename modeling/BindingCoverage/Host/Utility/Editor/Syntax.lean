import BindingCoverage.Host.Regex.Reader

/-!
# Scripts of the stream editor

A script is a row of instructions. Each one has a condition on the lines that it is for, and the
instructions of a block that is not for a line are skipped.
-/

namespace BindingCoverage.Host.Utility.Editor

/-- An expression with the way in which it is matched. The empty expression stands for the last one
that was used. -/
structure Search where
  expression : Option Regex
  foldsCase : Bool := false
  hasLines : Bool := false
  deriving DecidableEq, Repr

inductive Address where
  | line (number : Nat)
  /-- Every so many lines from a first one. -/
  | step (first step : Nat)
  | last
  | search (s : Search)
  deriving DecidableEq, Repr

/-- Where a range of lines ends. -/
inductive RangeEnd where
  | line (number : Nat)
  /-- So many lines after its start. -/
  | after (count : Nat)
  /-- At the next multiple of a number. -/
  | multiple (factor : Nat)
  | last
  | search (s : Search)
  deriving DecidableEq, Repr

structure Condition where
  first : Option Address := none
  last : Option RangeEnd := none
  isNegated : Bool := false
  deriving DecidableEq, Repr

/-- How letters of a replacement are changed. -/
inductive Casing where
  | upper
  | lower
  | asIs
  /-- The next letter only. -/
  | nextUpper
  | nextLower
  deriving DecidableEq, Repr

/-- A part of a replacement. -/
inductive Piece where
  | text (s : List Char)
  | group (number : Nat)
  | casing (c : Casing)
  deriving DecidableEq, Repr

structure Substitution where
  search : Search
  replacement : List Piece
  /-- The number of the first match that is replaced. -/
  number : Nat := 1
  isGlobal : Bool := false
  prints : Bool := false
  evaluates : Bool := false
  /-- The file that a changed line is written to. -/
  file : Option String := none
  deriving DecidableEq, Repr

inductive Deed where
  /-- The start of a block, with the place after its end. -/
  | block (after : Nat)
  | nothing
  | append (text : List Char)
  | insert (text : List Char)
  | change (text : List Char)
  | branch (target : Nat)
  | branchIfDone (target : Nat)
  | branchUnlessDone (target : Nat)
  | delete
  | deleteFirst
  | execute (command : List Char)
  | fileName
  | getHeld
  | getHeldToo
  | hold
  | holdToo
  | exchange
  | show_ (width : Option Nat)
  | next
  | nextToo
  | print
  | printFirst
  | quit (code : Nat)
  | quitSilently (code : Nat)
  | readFile (path : String)
  | readLine (path : String)
  | substitute (s : Substitution)
  | translate (images : List (Char × Char))
  | lineNumber
  | writeFile (path : String)
  | writeFirst (path : String)
  | clear
  deriving DecidableEq, Repr

structure Instruction where
  condition : Condition
  deed : Deed
  deriving DecidableEq, Repr

/-- A whole script. -/
structure Script where
  instructions : Array Instruction
  /-- Whether it says itself that lines are printed only on demand. -/
  isQuiet : Bool := false
  deriving DecidableEq, Repr

end BindingCoverage.Host.Utility.Editor
