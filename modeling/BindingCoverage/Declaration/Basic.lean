/-!
# Declarations

The declaration of a C function, as an extractor reports it. Types are references to other parts of
the extractor's report and stay texts.
-/

namespace BindingCoverage

structure Parameter where
  name : Option String := none
  typeId : Option String := none
  deriving DecidableEq, Repr

/-- A declaration is identified by its name. -/
structure Declaration where
  name : String
  id : Option String := none
  /-- The type that is returned. -/
  returns : Option String := none
  parameters : List Parameter := []
  variadic : Bool := false
  isExtern : Bool := false
  isInline : Bool := false
  isStatic : Bool := false
  file : Option String := none
  line : Option UInt32 := none
  deriving DecidableEq, Repr

/-- A declaration of which only the name is known. -/
def Declaration.named (name : String) : Declaration where
  name := name

end BindingCoverage
