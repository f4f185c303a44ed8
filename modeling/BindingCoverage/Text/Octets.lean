import BindingCoverage.Text.Utf8

/-!
# Octet strings

Texts in which every character stands for one octet. Programs that know nothing of encodings work
on such texts: what they write character by character is what they were given.
-/

namespace BindingCoverage.Octets

/-- The octet string with these octets. -/
def ofList (octets : List UInt8) : String :=
  String.ofList (octets.map fun b => Char.ofNat b.toNat)

/-- The octets of an octet string. -/
def toList (s : String) : List UInt8 := s.toList.map fun c => UInt8.ofNat c.toNat

/-- The octets of a text. -/
def ofText (text : String) : String := ofList (Utf8.encode text)

/-- The text that an octet string encodes, where ill-formed parts become one U+FFFD each. -/
def text (s : String) : String := Utf8.lossy (toList s)

end BindingCoverage.Octets
