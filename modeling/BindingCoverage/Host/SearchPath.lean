/-!
# Search paths

A search path lists directories, with colons between them, in which programs are looked for by
their names. An empty name stands for the working directory.
-/

namespace BindingCoverage.Host.SearchPath

/-- The path that is taken where none is given. -/
def standard : String := "/usr/local/sbin:/usr/local/bin:/usr/sbin:/usr/bin:/sbin:/bin"

/-- The names that colons separate; the characters of the name under way come last first. -/
def namesFrom (current : List Char) : List Char → List String
  | [] => [String.ofList current.reverse]
  | ':' :: rest => String.ofList current.reverse :: namesFrom [] rest
  | c :: rest => namesFrom (c :: current) rest

/-- The directories that a path lists. -/
def directories (path : String) : List String := namesFrom [] path.toList

/-- Where a program with a name may be, in the order of the search. -/
def candidates (path name : String) : List String :=
  (directories path).map fun d => if d.isEmpty then name else d ++ "/" ++ name

end BindingCoverage.Host.SearchPath
