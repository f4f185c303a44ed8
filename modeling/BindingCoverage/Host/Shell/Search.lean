import BindingCoverage.Host.SearchPath
import BindingCoverage.Host.Shell.Builtin.Basic

/-!
# Finding commands

A name stands for a function, for a builtin command, or for a program in one of the directories of
`PATH`. A name with a slash is a path.
-/

namespace BindingCoverage.Host.Shell

def builtinNames : List String := [
  ".", ":", "[", "alias", "bg", "break", "cd", "chdir", "command", "continue", "echo", "eval",
  "exec", "exit", "export", "false", "fg", "getopts", "hash", "jobs", "kill", "local", "printf",
  "pwd", "read", "readonly", "return", "set", "shift", "test", "times", "trap", "true", "type",
  "ulimit", "umask", "unalias", "unset", "wait"]

/-- The builtin commands whose arguments may be assignments. -/
def assigningNames : List String := ["alias", "export", "local", "readonly"]

inductive Found where
  | function (f : Function)
  | builtin (name : String)
  /-- The paths at which the program may be. -/
  | program (paths : List String)
  | missing (e : SystemError)

namespace Script

/-- The paths of the regular files with a name in the directories of a search path. -/
def pathsOf (files : Files) (path name : String) : Except SystemError (List String) :=
  let all := SearchPath.candidates path name
  let found := all.filter fun p =>
    match files.node (Octets.text p) with
    | .ok (.file _ _) | .ok (.program _) => true
    | _ => false
  if !found.isEmpty then .ok found
  else if all.any fun p => (files.node (Octets.text p)).isOk then .error .permissionDenied
  else .error .notFound

/-- What a name stands for. -/
def find (withFunctions : Bool) (path name : String) : Script Found := do
  if name.toList.contains '/' then return .program [name]
  let s ← get
  match if withFunctions then (s.functions.find? (·.1 == name)).map (·.2) else none with
  | some f => return .function f
  | none =>
    if builtinNames.contains name then return .builtin name
    else
      match pathsOf (← ask .files) path name with
      | .ok paths => return .program paths
      | .error e => return .missing e

def searchPath : Script String := do return ((← get).value? "PATH").getD SearchPath.standard

/-- Goes on as a program, which may be a text of commands that does not say so. There is a reply
only if that fails. -/
def goOnAs (arguments : List String) (environment : Environment) :
    List String → SystemError → Script SystemError
  | [], e => return e
  | path :: rest, e => do
    match ← ask (.replace path arguments environment) with
    | .number 8 => do
      let shell := "/bin/sh"
      let e ← ask (.replace shell (shell :: path :: arguments.drop 1) environment)
      goOnAs arguments environment rest e
    | failure =>
      let isMissing := failure = .notFound || failure = .notADirectory
      goOnAs arguments environment rest (if isMissing then e else failure)

/-- Goes on as a program that was found, or ends with a complaint. -/
def execute (paths : List String) (arguments : List String) : Script Nat := do
  let environment := (← get).environment
  let e ← goOnAs arguments environment paths .notFound
  let isMissing := e = .notFound || e = .notADirectory || e = .nameTooLong || e = .tooManyLinks
  let status := if isMissing then 127 else 126
  let name := arguments.headD ""
  warn s!"{name}: {errorText .executing e}"
  modify fun s => { s with status }
  throw (.exit status)

end Script

end BindingCoverage.Host.Shell
