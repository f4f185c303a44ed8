/-!
# Kinds of characters

The kinds of characters that have names, as far as single octets go. An octet above the first 128
is of no kind.
-/

namespace BindingCoverage.Host.CharKind

def names : List String := [
  "alpha", "digit", "alnum", "upper", "lower", "space", "blank", "punct", "print", "graph",
  "cntrl", "xdigit"]

def isBlank (c : Char) : Bool := c == ' ' || c == '\t'

def isGraphic (c : Char) : Bool := '!' ≤ c && c ≤ '~'

/-- Whether a character can be part of a word. -/
def isWord (c : Char) : Bool := c.isAlphanum || c == '_'

/-- Whether a character is of the kind with a name. -/
def holds (name : String) (c : Char) : Bool :=
  match name with
  | "alpha" => c.isAlpha
  | "digit" => c.isDigit
  | "alnum" => c.isAlphanum
  | "upper" => c.isUpper
  | "lower" => c.isLower
  | "space" => c == ' ' || ('\t' ≤ c && c ≤ '\r')
  | "blank" => isBlank c
  | "punct" => isGraphic c && !c.isAlphanum
  | "print" => c == ' ' || isGraphic c
  | "graph" => isGraphic c
  | "cntrl" => c.toNat < 32 || c.toNat == 127
  | "xdigit" => c.isDigit || ('a' ≤ c && c ≤ 'f') || ('A' ≤ c && c ≤ 'F')
  | _ => false

/-- A part of a set of characters. -/
inductive Item where
  | range (low high : Char)
  | kind (name : String)
  deriving DecidableEq, Repr

def Item.holds (c : Char) : Item → Bool
  | .range low high => low ≤ c && c ≤ high
  | .kind name => CharKind.holds name c

/-- All characters there are, in their order. -/
def all : List Char := (List.range 256).map Char.ofNat

/-- The characters of a kind, if there is a kind with that name. -/
def members? (name : String) : Option (List Char) :=
  if names.contains name then some (all.filter (holds name)) else none

end BindingCoverage.Host.CharKind
