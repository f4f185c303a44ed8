import BindingCoverage.Declaration.Set
import BindingCoverage.Xml.Error

/-!
# Errors of reading a dump

Positions count the octets of the dump before the item that is at fault. Indices count the
function elements that are not within another one.
-/

namespace BindingCoverage.Dump

inductive Error where
  /-- The dump could not be opened. -/
  | source (text : String)
  | markup (position : Nat) (e : Xml.Error)
  | attributes (position : Nat) (e : Xml.AttributeError)
  | mismatchedEnd (expected found : String) (position : Nat)
  | unclosed (name : String)
  | noRoot
  | secondRoot (name : String) (position : Nat)
  | invalidLine (index : Nat) (key value : String)
  | missingName (e : MissingName)
  deriving DecidableEq, Repr

namespace Error

def message : Error → String
  | .source text => "failed to read AST payload: " ++ text
  | .markup position e => s!"malformed AST payload at byte {position}: {e.message}"
  | .attributes position e => s!"malformed attribute at byte {position}: {e.message}"
  | .mismatchedEnd expected found position =>
    s!"mismatched end tag </{found}> at byte {position}, expected </{expected}>"
  | .unclosed name => s!"unclosed element <{name}> at end of AST payload"
  | .noRoot => "AST payload contains no root element"
  | .secondRoot name position => s!"second root element <{name}> at byte {position}"
  | .invalidLine index key value =>
    s!"function element #{index} has invalid {key}=\"{value}\""
  | .missingName e => e.message

/-- The messages of the causes below an error, outermost first. -/
def causes : Error → List String
  | .source text => [text]
  | .markup _ e => e.message :: e.causes
  | .attributes _ e => [e.message]
  | _ => []

end Error

end BindingCoverage.Dump
