import BindingCoverage.Settings.Basic

/-!
# Invocations

A program with its arguments. The extractor gets the extra arguments of the settings, the flags
that ask for a dump on standard output, and the source file, in this order.
-/

namespace BindingCoverage.Extractor

structure Invocation where
  program : String
  args : List String
  deriving DecidableEq, Repr

def outputFlags : List String := ["--castxml-output=1", "-o", "-"]

namespace Invocation

def extract (settings : Settings) (source : String) : Invocation where
  program := settings.extractor
  args := settings.extraArgs ++ outputFlags ++ [source]

/-- Program and arguments, with nothing quoted. -/
def text (i : Invocation) : String := String.intercalate " " (i.program :: i.args)

end Invocation

end BindingCoverage.Extractor
