import BindingCoverage.Declaration.Basic
import BindingCoverage.Text.Blank

/-!
# Sets of declarations

Declarations in the order in which they were found.

* `DeclarationSet.ensure`: the set of a list; it refuses blank names and keeps the first
  declaration of each name.
* `get?`, `contains`, `withPrefix`: look-ups by name.
-/

namespace BindingCoverage

/-- The declaration with this index has a blank name. -/
structure MissingName where
  index : Nat
  deriving DecidableEq, Repr

def MissingName.message (e : MissingName) : String :=
  s!"function element #{e.index} has an empty or missing name"

structure DeclarationSet where
  declarations : List Declaration
  deriving DecidableEq, Repr

namespace DeclarationSet

def empty : DeclarationSet := ⟨[]⟩

/-- The declarations whose name is not among `seen` nor the name of an earlier one. -/
def firstOccurrences (seen : List String) : List Declaration → List Declaration
  | [] => []
  | d :: rest =>
    if d.name ∈ seen then firstOccurrences seen rest
    else d :: firstOccurrences (d.name :: seen) rest

def ensure (found : List Declaration) : Except MissingName DeclarationSet :=
  match found.findIdx? (Text.isBlankText ·.name) with
  | some index => .error ⟨index⟩
  | none => .ok ⟨firstOccurrences [] found⟩

def size (s : DeclarationSet) : Nat := s.declarations.length

def isEmpty (s : DeclarationSet) : Bool := s.declarations.isEmpty

def names (s : DeclarationSet) : List String := s.declarations.map (·.name)

def get? (s : DeclarationSet) (name : String) : Option Declaration :=
  s.declarations.find? (·.name == name)

def contains (s : DeclarationSet) (name : String) : Bool := (s.get? name).isSome

/-- The declarations whose name begins with `beginning`. -/
def withPrefix (s : DeclarationSet) (beginning : String) : List Declaration :=
  s.declarations.filter (Text.startsWith ·.name beginning)

end DeclarationSet

end BindingCoverage
