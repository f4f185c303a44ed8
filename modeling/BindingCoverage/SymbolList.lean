import BindingCoverage.Text.Blank

/-!
# Symbol lists

The symbols that a binding implements, one a line. Blanks around a symbol do not count, nor do
blank lines and lines that begin with a number sign.
-/

namespace BindingCoverage.SymbolList

/-- Whether a trimmed line names a symbol. -/
def isSymbol (line : String) : Bool := !line.isEmpty && line.toList.head? != some '#'

def symbols (text : String) : List String :=
  ((Text.lines text).map Text.trim).filter isSymbol

end BindingCoverage.SymbolList
