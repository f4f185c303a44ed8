import BindingCoverage.Host.Utility.Generating

/-!
# Names of files

Programs that take path texts apart or say where they lead: `basename`, `dirname`, `pwd`,
`readlink` and `realpath`.
-/

namespace BindingCoverage.Host.Utility

/-- A path text without the slashes at its end. -/
def withoutSlashes (s : List Char) : List Char := (s.reverse.dropWhile (· == '/')).reverse

/-- The last name of a path text. -/
def lastName (path : String) : String :=
  let cs := withoutSlashes path.toList
  if cs.isEmpty then (if path.isEmpty then "" else "/")
  else String.ofList (cs.reverse.takeWhile (· != '/')).reverse

/-- What stands before the last name of a path text. -/
def aboveLast (path : String) : String :=
  let cs := withoutSlashes path.toList
  let rest := cs.reverse.dropWhile (· != '/')
  if cs.isEmpty then (if path.isEmpty then "." else "/")
  else if rest.isEmpty then "."
  else
    let above := withoutSlashes rest.reverse
    if above.isEmpty then "/" else String.ofList above

/-- A name without a suffix, unless it is nothing else. -/
def withoutSuffix (suffix name : String) : String :=
  if name ≠ suffix && name.endsWith suffix then
    String.ofList (name.toList.take (name.length - suffix.length))
  else name

def basename : Routine := fun c => do
  let o ← c.options [
    { letter := 'a', names := ["multiple"] },
    { letter := 's', takes := .argument, names := ["suffix"] },
    { letter := 'z', names := ["zero"] }] 1 true
  let ending := if o.has 'z' then "\x00" else "\n"
  match o.operands with
  | [] => do
    c.misused "missing operand"
    return 1
  | operands@(first :: rest) => do
    if o.has 'a' || o.has 's' then
      let suffix := (o.value? 's').getD ""
      for path in operands do c.print (withoutSuffix suffix (lastName path) ++ ending)
      return 0
    match rest with
    | _ :: extra :: _ => do
      c.misused s!"extra operand '{extra}'"
      return 1
    | rest => do
      c.print (withoutSuffix (rest.headD "") (lastName first) ++ ending)
      return 0

def dirname : Routine := fun c => do
  let o ← c.options [{ letter := 'z', names := ["zero"] }] 1 true
  let ending := if o.has 'z' then "\x00" else "\n"
  if o.operands.isEmpty then
    c.misused "missing operand"
    return 1
  for path in o.operands do c.print (aboveLast path ++ ending)
  return 0

def pwd : Routine := fun c => do
  let o ← c.options [
    { letter := 'L', names := ["logical"] }, { letter := 'P', names := ["physical"] }] 1 false
  if !o.operands.isEmpty then c.complain "ignoring non-option arguments"
  c.print ((← Program.ask .files).working.octets ++ "\n")
  return 0

/-- How much of a path has to be there. -/
inductive Demand where
  | all
  | allButLast
  | nothing
  deriving DecidableEq, Repr

/-- Where a path text leads, whether or not all of it is there. -/
def placeOf (files : Files) (d : Demand) (text : String) : Except SystemError Path :=
  let text := Octets.text text
  match d with
  | .all => files.resolve text
  | .allButLast => files.place text
  | .nothing =>
    let start := if text.startsWith "/" then [] else files.working
    .ok ((pathNames text).foldl (fun p name =>
      if name = "." then p else if name = ".." then p.dropLast else p ++ [name]) start)

def realpath : Routine := fun c => do
  let o ← c.options [
    { letter := 'e', names := ["canonicalize-existing"] },
    { letter := 'm', names := ["canonicalize-missing"] },
    { letter := 's', names := ["strip", "no-symlinks"] }, { letter := 'q', names := ["quiet"] },
    { letter := 'z', names := ["zero"] }, { letter := 'L' }, { letter := 'P' }] 1 false
  let ending := if o.has 'z' then "\x00" else "\n"
  let demand : Demand := match o.lastOf? ['e', 'm'] with
    | some 'e' => .all
    | some _ => .nothing
    | none => .allButLast
  if o.operands.isEmpty then
    c.misused "missing operand"
    return 1
  let files ← Program.ask .files
  let mut status := 0
  for path in o.operands do
    match placeOf files demand path with
    | .ok p => c.print (p.octets ++ ending)
    | .error e => do
      if !o.has 'q' then c.complain s!"{path}: {errorText e}"
      status := 1
  return status

def readlink : Routine := fun c => do
  let o ← c.options [
    { letter := 'f', names := ["canonicalize"] },
    { letter := 'e', names := ["canonicalize-existing"] },
    { letter := 'm', names := ["canonicalize-missing"] }, { letter := 'v', names := ["verbose"] },
    { letter := 'n', names := ["no-newline"] }, { letter := 'q', names := ["quiet"] },
    { letter := 's', names := ["silent"] }, { letter := 'z', names := ["zero"] }] 1 false
  let ending := if o.has 'n' then "" else if o.has 'z' then "\x00" else "\n"
  if o.operands.isEmpty then
    c.misused "missing operand"
    return 1
  let files ← Program.ask .files
  let result (path : String) : Except SystemError Path :=
    match o.lastOf? ['f', 'e', 'm'] with
    | some 'f' => placeOf files .allButLast path
    | some 'e' => placeOf files .all path
    | some _ => placeOf files .nothing path
    | none => do
      discard (placeOf files .all path)
      throw .invalidArgument
  let mut status := 0
  for path in o.operands do
    match result path with
    | .ok p => c.print (p.octets ++ ending)
    | .error e => do
      if o.has 'v' then c.complain s!"{path}: {errorText e}"
      status := 1
  return status

end BindingCoverage.Host.Utility
