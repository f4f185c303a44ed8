import BindingCoverage.Text.Printable

/-!
# Quoted texts

A text between quotation marks, as error messages show it: the usual short escapes, and
`\u` with the code point in braces for every character that is not printable.
-/

namespace BindingCoverage.Text.Quoted

/-- One character of a quoted text. -/
def escape (c : Char) : List Char :=
  if c = '\x00' then ['\\', '0']
  else if c = '\t' then ['\\', 't']
  else if c = '\r' then ['\\', 'r']
  else if c = '\n' then ['\\', 'n']
  else if c = '"' then ['\\', '"']
  else if c = '\\' then ['\\', '\\']
  else if isPrintable c then [c]
  else ['\\', 'u', '\x7b'] ++ Nat.toDigits 16 c.toNat ++ ['\x7d']

def quote (s : String) : String :=
  String.ofList ('"' :: s.toList.flatMap escape ++ ['"'])

end BindingCoverage.Text.Quoted
