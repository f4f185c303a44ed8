import BindingCoverage.Host.Files
import BindingCoverage.Text.Octets

/-!
# Programs in files

What is started when a file is started: an installed program, or the interpreter that the first
line of a script names. An interpreter may be a script itself. It is given at most one argument of
its own, then the path of the script, then the arguments of the script.
-/

namespace BindingCoverage.Host.Image

/-- How much of a file is looked at. -/
def headerSize : Nat := 256

/-- How many interpreters there may be one above the other. -/
def deepest : Nat := 5

/-- The greatest length of an argument. -/
def greatestArgument : Nat := 131071

def isBlank (c : Char) : Bool := c == ' ' || c == '\t'

/-- The interpreter in the first line of a script, with its argument. -/
def interpreter? (octets : List UInt8) : Option (String × Option String) := do
  let header : List Char := (Octets.ofList (octets.take headerSize)).toList ++
    List.replicate (headerSize - octets.length) '\x00'
  match header with
  | '#' :: '!' :: rest =>
    let line := rest.takeWhile (· != '\n')
    let isWhole := line.length < rest.length
    let name := line.dropWhile isBlank
    let ends (c : Char) : Bool := isBlank c || c == '\x00'
    if !isWhole && !name.any ends then none
    let line := (name.reverse.dropWhile isBlank).reverse
    let name := line.takeWhile (!ends ·)
    if name.isEmpty then none
    let after := line.drop name.length
    let argument := (after.dropWhile isBlank).takeWhile (· != '\x00')
    let isArgument := after.head? != some '\x00' && !argument.isEmpty
    return (String.ofList name, if isArgument then some (String.ofList argument) else none)
  | _ => none

/-- The installed program that a path stands for with its arguments, of which the first is the name
that it is called by. -/
def find (files : Files) : Nat → String → List String → Except SystemError (String × List String)
  | 0, _, _ => .error .tooManyLinks
  | depth + 1, path, arguments => do
    match ← files.node (Octets.text path) with
    | .program name => return (name, arguments)
    | .file octets true =>
      match interpreter? octets with
      | none => throw .notExecutable
      | some (name, argument) =>
        find files depth name (name :: argument.toList ++ path :: arguments.drop 1)
    | _ => throw .permissionDenied

/-- What is started with a path and arguments. -/
def start (files : Files) (path : String) (arguments : List String) :
    Except SystemError (String × List String) := do
  if (path :: arguments).any (greatestArgument < ·.length) then throw .argumentsTooLong
  find files (deepest + 1) path arguments

end BindingCoverage.Host.Image
