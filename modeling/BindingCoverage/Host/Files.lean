import BindingCoverage.Host.SystemError
import BindingCoverage.Text.Octets

/-!
# Files

The files of a host, as a list of paths with what they name. A path is a list of names from the
root. A path text that does not begin with a slash is taken from the working directory.
-/

namespace BindingCoverage.Host

/-- What takes everything that is written to it, or refuses to, and gives nothing or zeros. -/
inductive Device where
  | null
  | zero
  | full
  deriving DecidableEq, Repr

inductive Node where
  | directory
  | file (octets : List UInt8) (executable : Bool)
  | device (kind : Device)
  /-- Whatever a descriptor of the process leads to. -/
  | descriptor (number : Nat)
  /-- An installed program. -/
  | program (name : String)
  deriving DecidableEq, Repr

abbrev Path := List String

/-- The text of a path from the root, in octets. -/
def Path.octets (p : Path) : String := "/" ++ Octets.ofText ("/".intercalate p)

structure Files where
  /-- Each path once. -/
  nodes : List (Path × Node)
  working : Path
  deriving DecidableEq, Repr

/-- The names that slashes separate. -/
def namesFrom (current : List Char) : List Char → List String
  | [] => [String.ofList current.reverse]
  | c :: rest =>
    if c = '/' then String.ofList current.reverse :: namesFrom [] rest
    else namesFrom (c :: current) rest

/-- The names of a path text. Empty names are left out, and a slash at the end counts as a name for
the directory itself. -/
def pathNames (text : String) : List String :=
  let names := namesFrom [] text.toList
  let kept := names.filter (· != "")
  if names.getLast? = some "" then kept ++ ["."] else kept

/-- The greatest length of a path text. -/
def longestPath : Nat := 4095

namespace Files

/-- The names of the installed programs. -/
def programs : List String := [
  "[", "basename", "cat", "chmod", "cmp", "comm", "cp", "cut", "dash", "dd", "dirname", "echo",
  "egrep", "env", "expr", "factor", "false", "fgrep", "find", "fold", "grep", "head", "id", "ls",
  "mkdir", "mktemp", "mv", "nice", "nl", "nohup", "od", "paste", "printenv", "printf", "pwd",
  "readlink", "realpath", "rev", "rm", "rmdir", "sed", "seq", "setsid", "sh", "sleep", "sort",
  "stat", "stdbuf", "sync", "tac", "tail", "tee", "test", "timeout", "touch", "tr", "true",
  "truncate", "tty", "uname", "uniq", "unlink", "wc", "which", "whoami", "xargs", "yes"]

/-- What every host has. -/
def standard : List (Path × Node) :=
  [([], .directory),
    (["tmp"], .directory),
    (["dev"], .directory),
    (["dev", "null"], .device .null),
    (["dev", "zero"], .device .zero),
    (["dev", "full"], .device .full),
    (["dev", "stdin"], .descriptor 0),
    (["dev", "stdout"], .descriptor 1),
    (["dev", "stderr"], .descriptor 2),
    (["dev", "fd"], .directory)] ++
  ((List.range 10).map fun n => (["dev", "fd", toString n], .descriptor n)) ++
  [(["bin"], .directory),
    (["usr"], .directory),
    (["usr", "bin"], .directory),
    (["etc"], .directory),
    (["root"], .directory),
    (["home"], .directory),
    (["var"], .directory),
    (["var", "tmp"], .directory),
    (["work"], .directory)] ++
  programs.flatMap fun name =>
    [(["bin", name], .program name), (["usr", "bin", name], .program name)]

def initial : Files := ⟨standard, ["work"]⟩

def empty : Files := ⟨[], []⟩

def get? (f : Files) (path : Path) : Option Node := (f.nodes.find? (·.1 == path)).map (·.2)

/-- Puts a node where a path leads to. -/
def put (f : Files) (path : Path) (node : Node) : Files :=
  { f with nodes := (path, node) :: f.nodes.filter (·.1 != path) }

/-- Adds a node, and directories for the paths above it that name nothing yet. -/
def add (f : Files) (path : Path) (node : Node) : Files :=
  let parents := ((List.range path.length).map path.take).filter fun p => (f.get? p).isNone
  { f with nodes := (path, node) :: parents.map (·, .directory) ++ f.nodes.filter (·.1 != path) }

def remove (f : Files) (path : Path) : Files :=
  { f with nodes := f.nodes.filter (·.1 != path) }

/-- The path that names lead to from `place`. -/
def walk (f : Files) (place : Path) : List String → Except SystemError Path
  | [] => .ok place
  | name :: rest =>
    match f.get? place with
    | some .directory =>
      if name = "." then f.walk place rest
      else if name = ".." then f.walk place.dropLast rest
      else if 255 < name.utf8ByteSize then .error .nameTooLong
      else if (f.get? (place ++ [name])).isNone then .error .notFound
      else f.walk (place ++ [name]) rest
    | some _ => .error .notADirectory
    | none => .error .notFound

/-- The path that a text names. -/
def resolve (f : Files) (text : String) : Except SystemError Path :=
  if text.toList.contains '\x00' then .error .zeroInPath
  else if text.isEmpty then .error .notFound
  else if longestPath < text.utf8ByteSize then .error .nameTooLong
  else f.walk (if text.toList.head? = some '/' then [] else f.working) (pathNames text)

/-- What a text names. -/
def node (f : Files) (text : String) : Except SystemError Node := do
  match f.get? (← f.resolve text) with
  | some node => return node
  | none => throw .notFound

/-- Where a text names something, or would do so if something were put there: only the last name may
stand for nothing. -/
def place (f : Files) (text : String) : Except SystemError Path := do
  match f.resolve text with
  | .ok path => return path
  | .error e =>
    let names := pathNames text
    match names.getLast? with
    | none => throw e
    | some last =>
      if e ≠ .notFound || text.isEmpty || last = "." || last = ".." then throw e
      let above ← f.walk (if text.toList.head? = some '/' then [] else f.working) names.dropLast
      match f.get? above with
      | some .directory => return above ++ [last]
      | some _ => throw .notADirectory
      | none => throw .notFound

/-- Where something new can be put under a text that names nothing yet. -/
def vacancy (f : Files) (text : String) : Except SystemError Path :=
  match f.resolve text with
  | .ok _ => .error .alreadyThere
  | .error _ => f.place text

/-- The names in a directory, in no order that means anything. -/
def namesIn (f : Files) (path : Path) : List String :=
  f.nodes.filterMap fun (other, _) =>
    if other ≠ [] ∧ other.dropLast = path then other.getLast? else none

/-- The octets of a file. A directory can be opened and not be read. -/
def readOctets (f : Files) (text : String) : Except SystemError (List UInt8) := do
  match ← f.node text with
  | .directory => throw .isADirectory
  | .file octets _ => return octets
  | _ => return []

/-- The text of a file. -/
def readText (f : Files) (text : String) : Except SystemError String := do
  match Utf8.decode (← f.readOctets text) with
  | .ok s => return s
  | .error _ => throw .notText

/-- The files below the working directory, by their paths from there. -/
def working? (f : Files) (entry : Path × Node) : Option Path :=
  match entry.2 with
  | .directory => none
  | _ =>
    if f.working.isPrefixOf entry.1 then some (entry.1.drop f.working.length) else none

def inWorkingDirectory (f : Files) : List Path := f.nodes.filterMap f.working?

end Files

end BindingCoverage.Host
