import BindingCoverage.Host.Machine.Run
import BindingCoverage.Host.Shell.Start
import BindingCoverage.Host.Utility.Blocks
import BindingCoverage.Host.Utility.Calculation
import BindingCoverage.Host.Utility.Editor.Run
import BindingCoverage.Host.Utility.Finding
import BindingCoverage.Host.Utility.Ordering
import BindingCoverage.Host.Utility.Searching

/-!
# Installed programs

What the programs do that every host has, by their names.
-/

namespace BindingCoverage.Host

open Utility in
/-- The utilities with their names. -/
def utilities : List (String × Routine) := [
  ("[", bracket),
  ("basename", basename),
  ("cat", cat),
  ("chmod", chmod),
  ("cmp", cmp),
  ("comm", comm),
  ("cp", cp),
  ("cut", cut),
  ("dd", dd),
  ("dirname", dirname),
  ("echo", echo),
  ("egrep", egrep),
  ("env", env),
  ("expr", expr),
  ("factor", factor),
  ("false", refuse),
  ("fgrep", fgrep),
  ("find", find),
  ("fold", fold),
  ("grep", grep),
  ("head", head),
  ("id", id),
  ("ls", ls),
  ("mkdir", mkdir),
  ("mktemp", mktemp),
  ("mv", mv),
  ("nice", nice),
  ("nl", nl),
  ("nohup", nohup),
  ("od", od),
  ("paste", paste),
  ("printenv", printenv),
  ("printf", printf),
  ("pwd", pwd),
  ("readlink", readlink),
  ("realpath", realpath),
  ("rev", rev),
  ("rm", rm),
  ("rmdir", rmdir),
  ("sed", sed),
  ("seq", seq),
  ("setsid", setsid),
  ("sleep", sleep),
  ("sort", sort),
  ("stat", stat),
  ("stdbuf", stdbuf),
  ("sync", succeed),
  ("tac", tac),
  ("tail", tail),
  ("tee", tee),
  ("test", test),
  ("timeout", timeout),
  ("touch", touch),
  ("tr", tr),
  ("true", succeed),
  ("truncate", truncate),
  ("tty", tty),
  ("uname", uname),
  ("uniq", uniq),
  ("unlink", unlink),
  ("wc", wc),
  ("which", which),
  ("whoami", whoami),
  ("xargs", xargs),
  ("yes", yes)]

/-- The utility with a name. -/
def utility? (name : String) : Option Utility.Routine :=
  (utilities.find? (·.1 == name)).map (·.2)

/-- What a program does that is started with arguments, of which the first one is the name that it
is called by. -/
def installed (name : String) (arguments : List String) (environment : Environment) : Action :=
  match name with
  | "sh" | "dash" => (Shell.program arguments environment).toAction
  | _ =>
    match utility? name with
    | some u => (u ⟨arguments.headD name, arguments.drop 1, environment⟩).toAction
    | none => .exit (.exited 127)

end BindingCoverage.Host
