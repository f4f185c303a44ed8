import BindingCoverage.Dump.Collector
import BindingCoverage.Host.Files

/-!
# Dumps in files

A dump in a file is fed in pieces of a fixed size. A directory can be opened like a file, and then
its first piece cannot be read.
-/

namespace BindingCoverage.Dump

/-- The number of octets read from a file at a time. -/
def pieceSize : Nat := 8192

/-- The feed of what a path names. -/
def feedOf (node : Host.Node) : Xml.Feed :=
  match node with
  | .file octets _ => .buffered pieceSize octets none
  | .directory => .failed Host.SystemError.isADirectory.message
  | _ => .buffered pieceSize [] none

/-- Reads the dump in a file. -/
def decodeFile (files : Host.Files) (path : String) : Except Error DeclarationSet := do
  let node ← (files.node path).mapError fun e => .source e.message
  decode (feedOf node)

end BindingCoverage.Dump
