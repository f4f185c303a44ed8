import BindingCoverage.Host.Shell.Builtin.Basic

/-!
# Surroundings

The builtin commands for what every process has: its directory, the rights that its files do not
get, its limits and its times.
-/

namespace BindingCoverage.Host.Shell.Builtin

open Script

/-! ## Directories -/

/-- The steps of a path that are taken, of which the last one comes first. -/
def stepsFrom (taken : List String) : List String → List String
  | [] => taken
  | "" :: rest | "." :: rest => stepsFrom taken rest
  | ".." :: rest => stepsFrom (taken.drop 1) rest
  | name :: rest => stepsFrom (name :: taken) rest

/-- Where a path leads from a directory, as its text says. -/
def followed (directory text : String) : String :=
  let isDouble := text.startsWith "//" && !text.startsWith "///"
  let begins := if text.startsWith "/" then [] else stepsFrom [] (directory.splitOn "/")
  let start := if isDouble || (!text.startsWith "/" && directory.startsWith "//") then "//" else "/"
  start ++ "/".intercalate (stepsFrom begins (text.splitOn "/")).reverse

/-- Whether a path is looked for where it says, and not in the directories of `CDPATH`. -/
def isPlaced (text : String) : Bool :=
  match text.splitOn "/" with
  | "" :: _ :: _ | "." :: _ | ".." :: _ => true
  | _ => false

/-- The first directory of `CDPATH` with a directory of a name, and whether it is not the one that
the shell is in. -/
def fromSearch? (files : Files) (path text : String) : Option (String × Bool) :=
  (path.splitOn ":").findSome? fun entry =>
    let whole := if entry.isEmpty then text else entry ++ "/" ++ text
    match files.node (Octets.text whole) with
    | .ok .directory => some (whole, !entry.isEmpty)
    | _ => none

/-- Makes a directory the working one, as it is called in its text or as it is called at all. -/
def enter (isPhysical : Bool) (text : String) : Script Bool := do
  let s ← get
  let target := if isPhysical then text else followed s.directory text
  match (← ask .files).resolve (Octets.text target) with
  | .error _ => return false
  | .ok path =>
    match ← ask (.enter path) with
    | .error _ => return false
    | .ok () => do
      let directory := if isPhysical then path.octets else target
      assign "OLDPWD" s.directory true
      modify fun s => { s with directory }
      assign "PWD" directory true
      return true

def cd (arguments : List String) : Script Nat := do
  let (given, arguments) ← options "LP" "" arguments
  let isPhysical := given.getLast?.any (·.1 == 'P')
  let s ← get
  let (text, isShown) :=
    match arguments with
    | [] => ((s.value? "HOME").getD "", false)
    | "-" :: _ => ((s.value? "OLDPWD").getD "", true)
    | a :: _ => (a, false)
  let text := if text.isEmpty then "." else text
  let files ← ask .files
  let found := if isPlaced text then none else (s.value? "CDPATH").bind (fromSearch? files · text)
  let (target, isFound) := found.getD (text, false)
  if ← enter isPhysical target then
    if isShown || isFound then print ((← get).directory ++ "\n")
    return 0
  else fail s!"can't cd to {text}"

def pwd (arguments : List String) : Script Nat := do
  let (given, _) ← options "LP" "" arguments
  let text ← if given.getLast?.any (·.1 == 'P') then do pure (← ask .files).working.octets
    else do pure (← get).directory
  print (text ++ "\n")
  return 0

/-! ## Rights -/

/-- The bits of letters for rights, for those that are named. -/
def rights? (who : List Char) (letters : List Char) : Option Nat :=
  letters.foldlM (fun bits c => do
    let bit ← match c with
      | 'r' => some 4
      | 'w' => some 2
      | 'x' => some 1
      | 'X' | 's' | 't' => some 0
      | _ => none
    let all := who.foldl (fun n w => n + bit * (if w = 'u' then 64 else if w = 'g' then 8 else 1)) 0
    return bits ||| all) 0

/-- Rights after one clause of letters. -/
def afterClause? (mode : Nat) (clause : List Char) : Option Nat := do
  let isWho (c : Char) : Bool := "ugoa".toList.contains c
  let who := clause.takeWhile isWho
  let who := if who.isEmpty || who.contains 'a' then ['u', 'g', 'o'] else who.eraseDups
  match clause.dropWhile isWho with
  | '=' :: letters => do
    let whole ← rights? who ['r', 'w', 'x']
    return (mode &&& (511 - whole)) ||| (← rights? who letters)
  | '+' :: letters => return mode ||| (← rights? who letters)
  | '-' :: letters => return mode &&& (511 - (← rights? who letters))
  | _ => none

def octalText (n : Nat) : String :=
  let digits := String.ofList (Nat.toDigits 8 n)
  String.ofList (List.replicate (4 - digits.length) '0') ++ digits

/-- Rights as letters, for each kind of user. -/
def rightsText (mode : Nat) : String :=
  let one (who : Char) (shift : Nat) : String :=
    let bits := mode >>> shift
    String.ofList ([who, '='] ++ (if bits &&& 4 ≠ 0 then ['r'] else []) ++
      (if bits &&& 2 ≠ 0 then ['w'] else []) ++ (if bits &&& 1 ≠ 0 then ['x'] else []))
  ",".intercalate [one 'u' 6, one 'g' 3, one 'o' 0]

def umask (arguments : List String) : Script Nat := do
  let (given, arguments) ← options "S" "" arguments
  let mask := (← get).mask
  match arguments with
  | [] => print (if given.isEmpty then octalText mask ++ "\n" else rightsText (511 - mask) ++ "\n")
  | text :: _ => do
    if text.toList.head?.any Char.isDigit then
      if !text.toList.all (fun c => '0' ≤ c && c ≤ '7') then fail s!"Illegal number: {text}"
      modify fun s => { s with mask := valueIn 8 text.toList % 512 }
    else
      match (text.splitOn ",").foldlM (fun mode clause => afterClause? mode clause.toList)
        (511 - mask) with
      | some mode => modify fun s => { s with mask := 511 - mode }
      | none => fail s!"Illegal mode: {text}"
  return 0

/-! ## Limits and times -/

/-- What is used without a limit where nobody has set one. -/
def limitText (s : State) (kind : Char) : String :=
  match s.limits.find? (·.1 == kind) with
  | some (_, text) => text
  | none => if kind = 'c' || kind = 'r' then "0" else "unlimited"

def ulimit (arguments : List String) : Script Nat := do
  let (given, arguments) ← options "HSatfdsclmpnvwr" "" arguments
  let kind := ((given.filter fun (c, _) => c != 'H' && c != 'S').getLast?.map (·.1)).getD 'f'
  match arguments with
  | [] => print (limitText (← get) kind ++ "\n")
  | [text] => do
    if text ≠ "unlimited" && !text.toList.all Char.isDigit then fail "bad number"
    modify fun s => { s with limits := (kind, text) :: s.limits.filter (·.1 != kind) }
  | _ => fail "too many arguments"
  return 0

def times : Script Nat := do
  print "0m0.000000s 0m0.000000s\n0m0.000000s 0m0.000000s\n"
  return 0

end BindingCoverage.Host.Shell.Builtin
