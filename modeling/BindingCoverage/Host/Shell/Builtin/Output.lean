import BindingCoverage.Host.Condition
import BindingCoverage.Host.Format
import BindingCoverage.Host.Shell.Builtin.Basic

/-!
# Texts and conditions

`echo`, `printf` and `test`.
-/

namespace BindingCoverage.Host.Shell.Builtin

/-- What `echo` prints. A text may end the output with `\c`. -/
def echoText (newline : Bool) : List String → String
  | [] => if newline then "\n" else ""
  | [a] =>
    let (text, ends) := Format.unescape a
    if newline && !ends then text ++ "\n" else text
  | a :: rest =>
    let (text, ends) := Format.unescape a
    if ends then text else text ++ " " ++ echoText newline rest

def echo (arguments : List String) : Script Nat := do
  match arguments with
  | "-n" :: rest => Script.print (echoText false rest)
  | arguments => Script.print (echoText true arguments)
  return 0

def dialect : Format.Dialect where
  notNumeric text := s!"{text}: expected numeric value"
  notWhole text := s!"{text}: not completely converted"
  outOfRange text := s!"{text}: {SystemError.numberText 34}"
  invalid text := s!"{text}: invalid directive"
  missing _ := "missing format character"

def printf (arguments : List String) : Script Nat := do
  let (_, arguments) ← Script.options "" "" arguments
  match arguments with
  | [] => Script.fail "usage: printf format [arg ...]"
  | format :: arguments => do
    let result := Format.format dialect format arguments
    for complaint in result.complaints.reverse do Script.warn complaint
    Script.print result.text
    match result.failure with
    | some text => Script.fail text
    | none => return if result.complaints.isEmpty then 0 else 1

/-- A condition with its status. -/
def condition (arguments : List String) : Script Nat := do
  let files ← do
    if arguments.any fun a => 1 < a.length && a.startsWith "-" then Script.ask .files
    else pure Files.empty
  match Condition.holds files arguments with
  | .ok holds => return if holds then 0 else 1
  | .error text => Script.fail text

def bracket (arguments : List String) : Script Nat := do
  match arguments.getLast? with
  | some "]" => condition arguments.dropLast
  | _ => Script.fail "missing ]"

end BindingCoverage.Host.Shell.Builtin
