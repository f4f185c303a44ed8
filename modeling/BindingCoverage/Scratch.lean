import BindingCoverage.Activity
import BindingCoverage.Host.Files
import BindingCoverage.Library
import BindingCoverage.Text.Quoted

/-!
# Scratch files

The stub of a library is written to a file under a name that nothing else in its directory has. The
name ends in the key of the library, by which the extractor and its messages can be told apart.

A file is made empty, and the stub is then written to it. If that fails the file is removed.
-/

namespace BindingCoverage.Scratch

structure File where
  /-- Names the file for another program. -/
  text : String
  path : Host.Path
  deriving DecidableEq, Repr

/-- A file could not be created. -/
structure Error where
  cause : Host.SystemError
  /-- Where it was to be. -/
  place : Option String := none
  deriving DecidableEq, Repr

def Error.message (e : Error) : String :=
  match e.place with
  | some place => e.cause.message ++ " at path " ++ Text.Quoted.quote place
  | none => e.cause.message

/-- Where scratch files are kept, and what chance brings. -/
structure Storage (σ : Type) where
  files : Part σ Host.Files
  /-- The text of the directory; the empty text names the working directory. -/
  directory : String
  /-- The number of the first name that is tried. -/
  first : σ → Nat := fun _ => 0
  /-- Why a stub cannot be written, and how many of its octets are written before. -/
  fault : σ → Option (Host.SystemError × Nat) := fun _ => none

/-- The directory for temporary files. -/
def systemDirectory : String := "/tmp"

/-- The name number `n` of a scratch file. -/
def nameOf (l : Library) (n : Nat) : String :=
  let digits := Nat.toDigits 10 (n % 1000000)
  ".tmp" ++ String.ofList (List.replicate (6 - digits.length) '0' ++ digits) ++ s!"-{l.key}.c"

/-- A path text within another one, with one slash between them. -/
def joined (outer inner : String) : String :=
  if inner.startsWith "/" then inner
  else if outer.endsWith "/" then outer ++ inner
  else outer ++ "/" ++ inner

/-- The text of the path that a directory's text and a name make. -/
def placeIn (files : Host.Files) (directory name : String) : String :=
  joined (joined ("/" ++ String.intercalate "/" files.working) directory) name

/-- How many names are tried. -/
def attempts : Nat := 65536

/-- The first of so many names, from number `n` on, under which nothing stands yet. -/
def vacancyFrom (files : Host.Files) (directory : String) (l : Library) :
    Nat → Nat → Except Error File
  | 0, _ => .error ⟨.namesExhausted, some directory⟩
  | fuel + 1, n =>
    let text := placeIn files directory (nameOf l n)
    match files.vacancy text with
    | .ok path => .ok ⟨text, path⟩
    | .error e =>
      if e = .alreadyThere then vacancyFrom files directory l fuel (n + 1)
      else .error ⟨e, some text⟩

/-- Makes an empty file. -/
def make (directory : String) (l : Library) (first : Nat) (files : Host.Files) :
    Except Error File × Host.Files :=
  match vacancyFrom files directory l attempts first with
  | .error e => (.error e, files)
  | .ok file => (.ok file, files.put file.path (.file [] false))

/-- Writes octets to a file, or fewer of them if there is a fault. -/
def fill (file : File) (octets : List UInt8) (fault : Option (Host.SystemError × Nat))
    (files : Host.Files) : Except Error Unit × Host.Files :=
  match fault with
  | none => (.ok (), files.put file.path (.file octets false))
  | some (e, n) =>
    (.error ⟨e, some file.text⟩, files.put file.path (.file (octets.take n) false))

def discard (file : File) (files : Host.Files) : Host.Files := files.remove file.path

namespace Storage

variable {σ : Type} (s : Storage σ)

/-- Removes a scratch file. -/
def discard (file : File) : Activity σ Unit :=
  .atomic (s.files.lift fun files => ((), Scratch.discard file files))

/-- Writes the stub of a library to a new file. -/
def create (l : Library) : Activity σ (Except Error File) := do
  match ← .atomic fun x => s.files.lift (make s.directory l (s.first x)) x with
  | .error e => return .error e
  | .ok file =>
    match ← .atomic fun x => s.files.lift (fill file (Utf8.encode l.stub) (s.fault x)) x with
    | .ok () => return .ok file
    | .error e =>
      s.discard file
      return .error e

end Storage

/-- Whether a text names a file that holds exactly the stub. -/
def holdsStub (files : Host.Files) (text : String) (l : Library) : Bool :=
  match files.readOctets text with
  | .ok octets => octets == Utf8.encode l.stub
  | .error _ => false

end BindingCoverage.Scratch
