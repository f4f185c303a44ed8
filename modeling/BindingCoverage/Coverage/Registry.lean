import BindingCoverage.Coverage.Report

/-!
# Registry of expected functions

For each symbol prefix, the set that was registered for it last. Prefixes are in rising order and
none is empty.
-/

namespace BindingCoverage

structure Registry where
  entries : List (String × DeclarationSet) := []
  deriving DecidableEq, Repr

/-- A set was to be registered for the empty prefix. -/
inductive EmptyPrefix where
  | emptyPrefix
  deriving DecidableEq, Repr

def EmptyPrefix.message : EmptyPrefix → String
  | .emptyPrefix => "symbol prefix must not be empty"

namespace Registry

def empty : Registry := {}

/-- Registers a set in place of an earlier one. -/
def register (r : Registry) (symbolPrefix : String) (expected : DeclarationSet) :
    Except EmptyPrefix Registry :=
  if symbolPrefix.isEmpty then .error .emptyPrefix
  else .ok ⟨Text.Sorted.put symbolPrefix expected r.entries⟩

def expected? (r : Registry) (symbolPrefix : String) : Option DeclarationSet :=
  Text.Sorted.get? symbolPrefix r.entries

def prefixes (r : Registry) : List String := r.entries.map (·.1)

def size (r : Registry) : Nat := r.entries.length

def isEmpty (r : Registry) : Bool := r.entries.isEmpty

/-- The report for a prefix; there is none when nothing is registered for it. -/
def report? (r : Registry) (symbolPrefix : String) (implemented : List String) :
    Option CoverageReport :=
  (r.expected? symbolPrefix).map fun expected => .compare symbolPrefix expected implemented

end Registry

end BindingCoverage
