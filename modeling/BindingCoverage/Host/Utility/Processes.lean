import BindingCoverage.Host.CharKind
import BindingCoverage.Host.SearchPath
import BindingCoverage.Host.Utility.Generating

/-!
# Programs that start others

Programs that go on as another program or start one and wait for it, with another environment, a
time limit or arguments that they read; and programs that say something about their process.
-/

namespace BindingCoverage.Host.Utility

/-! ## Going on as another program -/

/-- Goes on as the first program of several paths that can be started. There is a value only if that
fails. A file with no known form is taken for a text of commands. -/
def goOnAs (arguments : List String) (environment : Environment) (failure : SystemError) :
    List String → Program SystemError
  | [] => return failure
  | path :: rest => do
    match ← Program.ask (.replace path arguments environment) with
    | .number 8 =>
      Program.ask (.replace "/bin/sh" ("/bin/sh" :: path :: arguments.drop 1) environment)
    | .permissionDenied => goOnAs arguments environment .permissionDenied rest
    | .notFound | .notADirectory => goOnAs arguments environment failure rest
    | e => return e

/-- Goes on as a program that is looked for in the path of its environment. -/
def execute (name : String) (arguments : List String) (environment : Environment) :
    Program SystemError := do
  if name.isEmpty then return .notFound
  let path := ((environment.find? (·.1 == "PATH")).map (·.2)).getD "/bin:/usr/bin"
  let paths := if name.toList.contains '/' then [name] else SearchPath.candidates path name
  goOnAs (name :: arguments) environment .notFound paths

/-- The status of a program that could not be started. -/
def startFailure (e : SystemError) : Nat := if e = .notFound || e = .number 2 then 127 else 126

/-- Goes on as a program, or says why that cannot be done. -/
def become (c : Call) (start name finish : String) (arguments : List String)
    (environment : Environment) : Program Nat := do
  let e ← execute name arguments environment
  c.complain s!"{start}{name}{finish}: {errorText e}"
  return startFailure e

/-- Waits for a child. -/
def waitFor (child : Nat) : Program ExitStatus :=
  Program.loop () fun _ => do
    match ← Program.ask (.wait none) with
    | .ended number status => return if number = child then .inr status else .inl ()
    | .childless => return .inr (.exited 127)
    | _ => return .inl ()

/-! ## env and printenv -/

/-- A variable and its value around an equals sign. -/
def assignment? (text : String) : Option (String × String) :=
  let name := text.toList.takeWhile (· != '=')
  if name.length < text.length then
    some (String.ofList name, String.ofList (text.toList.drop (name.length + 1)))
  else none

def withVariable (e : Environment) (name value : String) : Environment :=
  if e.any (·.1 == name) then e.map fun (n, v) => (n, if n = name then value else v)
  else e ++ [(name, value)]

/-- Assignments at the start of a list of words. -/
def assigned (e : Environment) : List String → Environment × List String
  | [] => (e, [])
  | word :: rest =>
    match assignment? word with
    | some (name, value) => assigned (withVariable e name value) rest
    | none => (e, word :: rest)

def env : Routine := fun c => do
  let o ← c.options [
    { letter := 'i', names := ["ignore-environment"] }, { letter := '0', names := ["null"] },
    { letter := 'u', takes := .argument, names := ["unset"] },
    { letter := 'C', takes := .argument, names := ["chdir"] },
    { letter := 'S', takes := .argument, names := ["split-string"] },
    { letter := 'v', names := ["debug"] }] 125 true
  let (isBare, words) := match o.operands with
    | "-" :: rest => (true, rest)
    | words => (false, words)
  let split := (o.given.filterMap fun (k, v) => if k = 'S' then v else none).flatMap fun text =>
    (text.toList.splitBy fun a b => isSpace a == isSpace b).filter (fun w => !w.any isSpace)
      |>.map String.ofList
  let base := if o.has 'i' || isBare then [] else c.environment
  let unset := o.given.filterMap fun (k, v) => if k = 'u' then v else none
  let base := base.filter fun (name, _) => !unset.contains name
  let (environment, words) := assigned base (split ++ words)
  match o.value? 'C' with
  | some path => do
    let files ← Program.ask .files
    match files.resolve (Octets.text path) with
    | .ok place => discard (Program.ask (.enter place))
    | .error e => do
      c.complain s!"cannot change directory to '{path}': {errorText e}"
      Program.exit 125
  | none => pure ()
  match words with
  | [] => do
    let ending := if o.has '0' then "\x00" else "\n"
    c.print (String.join (environment.map fun (name, value) => name ++ "=" ++ value ++ ending))
    return 0
  | name :: arguments => become c "'" name "'" arguments environment

def printenv : Routine := fun c => do
  let o ← c.options [{ letter := '0', names := ["null"] }] 2 true
  let ending := if o.has '0' then "\x00" else "\n"
  if o.operands.isEmpty then
    c.print (String.join (c.environment.map fun (name, value) => name ++ "=" ++ value ++ ending))
    return 0
  let mut status := 0
  for name in o.operands do
    match c.environment.find? (·.1 == name) with
    | some (_, value) => c.print (value ++ ending)
    | none => status := 1
  return status

/-! ## Programs in other circumstances -/

def nohup : Routine := fun c => do
  let o ← c.options [] 125 true
  match o.operands with
  | [] => do
    c.misused "missing operand"
    return 125
  | name :: arguments => do
    Program.ask (.dispose Signal.hangUp .ignored)
    become c "failed to run command '" name "'" arguments c.environment

def setsid : Routine := fun c => do
  let o ← c.options [
    { letter := 'c', names := ["ctty"] }, { letter := 'f', names := ["fork"] },
    { letter := 'w', names := ["wait"] }] 1 true
  match o.operands with
  | [] => do
    c.misused "no command specified"
    return 1
  | name :: arguments => do
    let inside : Program Nat := do
      discard (Program.ask .leave)
      become c "failed to execute " name "" arguments c.environment
    let who ← Program.ask .identity
    if o.has 'f' || who.group = who.process then
      let child ← Program.fork inside
      if o.has 'w' then
        let status ← waitFor child
        return status.code?.getD 1
      return 0
    else inside

def nice : Routine := fun c => do
  let arguments := match c.arguments with
    | a :: rest =>
      match a.toList with
      | '-' :: d :: more =>
        if d.isDigit then "-n" :: String.ofList (d :: more) :: rest
        else if d = '-' && (more.head?).any Char.isDigit then
          "-n" :: String.ofList ('-' :: more) :: rest
        else c.arguments
      | _ => c.arguments
    | [] => []
  let o ← ({ c with arguments } : Call).options [
    { letter := 'n', takes := .argument, names := ["adjustment"] }] 125 true
  match o.value? 'n' with
  | some text =>
    if (number? (some 10) text).isNone then
      c.complain s!"invalid adjustment '{text}'"
      Program.exit 125
  | none => pure ()
  match o.operands with
  | [] => do
    if o.has 'n' then
      c.misused "a command must be given with an adjustment"
      return 125
    c.print "0\n"
    return 0
  | name :: arguments => become c "'" name "'" arguments c.environment

def stdbuf : Routine := fun c => do
  let o ← c.options [
    { letter := 'i', takes := .argument, names := ["input"] },
    { letter := 'o', takes := .argument, names := ["output"] },
    { letter := 'e', takes := .argument, names := ["error"] }] 125 true
  match o.operands with
  | [] => do
    c.misused "missing operand"
    return 125
  | name :: arguments => do
    if o.given.isEmpty then
      c.misused "you must specify a buffering mode option"
      return 125
    become c "failed to run command '" name "'" arguments c.environment

/-! ## Time -/

/-- A length of time in nanoseconds: a number with a unit. Nothing inside if it is without end. -/
def interval? (text : String) : Option (Option Nat) :=
  match Format.real? text.toList with
  | some (.infinite false, []) => some none
  | some (.finite x, rest) =>
    let unit? : Option Nat :=
      match rest with
      | [] | ['s'] => some 1
      | ['m'] => some 60
      | ['h'] => some 3600
      | ['d'] => some 86400
      | _ => none
    match unit? with
    | some unit =>
      let (n, d) := x.quotient
      if x.negative && n ≠ 0 then none else some (some ((n * unit * 1000000000 + d - 1) / d))
    | none => none
  | _ => none

def sleep : Routine := fun c => do
  let o ← c.options [] 1 false
  if o.operands.isEmpty then
    c.misused "missing operand"
    return 1
  let mut total : Option Nat := some 0
  let mut isFine := true
  for text in o.operands do
    match interval? text with
    | some t => total := do return (← total) + (← t)
    | none =>
      c.complain s!"invalid time interval '{text}'"
      isFine := false
  if !isFine then
    say s!"Try '{c.name} --help' for more information.\n"
    return 1
  match total with
  | some nanos => do
    Program.pass nanos
    return 0
  | none => Program.stall

/-- How the end of a program with a time limit is reported. -/
def limitedStatus (status : ExitStatus) : Nat :=
  match status.signal? with
  | some signal => 128 + signal
  | none => status.code?.getD 0

/-- Waits for a child for some time. -/
def waitLimited (child : Nat) (limit : Option Nat) : Program (Option ExitStatus) :=
  Program.loop () fun _ => do
    match ← Program.ask (.wait limit) with
    | .ended number status => return if number = child then .inr (some status) else .inl ()
    | .timeUp => return .inr none
    | .childless => return .inr (some (.exited 125))
    | .interrupted => return .inl ()

def timeout : Routine := fun c => do
  let o ← c.options [
    { letter := 's', takes := .argument, names := ["signal"] },
    { letter := 'k', takes := .argument, names := ["kill-after"] },
    { letter := 'v', names := ["verbose"] }, { letter := 'φ', names := ["foreground"] },
    { letter := 'π', names := ["preserve-status"] }] 125 true
  let interval (text : String) : Program (Option Nat) := do
    match interval? text with
    | some t => return if t = some 0 then none else t
    | none => do
      c.misused s!"invalid time interval '{text}'"
      Program.exit 125
  let signal ←
    match o.value? 's' with
    | none => pure Signal.terminate
    | some text =>
      match Signal.ofText? text with
      | some n => pure n
      | none => do
        c.misused s!"'{text}': invalid signal"
        Program.exit 125
  match o.operands with
  | text :: name :: arguments => do
    let later ← match o.value? 'k' with
      | some text => interval text
      | none => pure none
    let limit ← interval text
    if !o.has 'φ' then discard (Program.ask .leave)
    let child ← Program.fork (become c "failed to run command '" name "'" arguments c.environment)
    match ← waitLimited child limit with
    | some status => return limitedStatus status
    | none => do
      let strike (signal : Nat) : Program Unit := do
        if o.has 'v' then
          let shown := (Signal.shortName? signal).getD (toString signal)
          c.complain s!"sending signal {shown} to command '{name}'"
        discard (Program.ask (.signal child signal))
        if !o.has 'φ' then
          Program.ask (.dispose signal .ignored)
          discard (Program.ask (.signal 0 signal))
          if signal ≠ Signal.kill then
            discard (Program.ask (.signal child Signal.resume))
      strike signal
      match ← waitLimited child later with
      | some status =>
        if o.has 'π' || status.signal? = some Signal.kill then return limitedStatus status
        else return 124
      | none => do
        strike Signal.kill
        let status ← waitFor child
        return limitedStatus status
  | _ => do
    say s!"Try '{c.name} --help' for more information.\n"
    return 125

/-! ## xargs -/

/-- The words of a text, with quotes and backslashes; they end at blanks if that is wanted, and at
the ends of lines. The flag of a word says that a line ends after it. What is wrong comes with the
words before it. -/
def quotedWords (endsAtBlanks : Bool) :
    Nat → Option (List Char) → List (String × Bool) → List Char →
    List (String × Bool) × Option String
  | 0, _, done, _ => (done.reverse, none)
  | fuel + 1, current, done, cs =>
    let finished (endsLine : Bool) : List (String × Bool) :=
      match current with
      | some word => (String.ofList word.reverse, endsLine) :: done
      | none =>
        match done with
        | (word, _) :: rest => (word, endsLine || (done.head?.map (·.2)).getD false) :: rest
        | [] => []
    match cs with
    | [] => ((finished true).reverse, none)
    | '\n' :: rest => quotedWords endsAtBlanks fuel none (finished true) rest
    | '\\' :: c :: rest => quotedWords endsAtBlanks fuel (some (c :: current.getD [])) done rest
    | c :: rest =>
      if c = '"' || c = '\'' then
        let inside := rest.takeWhile fun d => d ≠ c && d ≠ '\n'
        match rest.drop inside.length with
        | d :: after =>
          if d = c then
            quotedWords endsAtBlanks fuel (some (inside.reverse ++ current.getD [])) done after
          else (done.reverse, some (unmatched c))
        | [] =>
          if inside.isEmpty && current.isNone then (done.reverse, none)
          else (done.reverse, some (unmatched c))
      else if CharKind.isBlank c && (endsAtBlanks || current.isNone) then
        quotedWords endsAtBlanks fuel none (finished false) rest
      else quotedWords endsAtBlanks fuel (some (c :: current.getD [])) done rest
where
  unmatched (c : Char) : String :=
    let kind := if c = '"' then "double" else "single"
    s!"unmatched {kind} quote; by default quotes are special to xargs unless you use the -0 option"

/-- Groups of so many words. -/
def grouped (count : Nat) : Nat → List String → List (List String)
  | 0, _ | _, [] => []
  | fuel + 1, words => words.take count :: grouped count fuel (words.drop count)

/-- Groups of words from so many lines. -/
def groupedByLines (count : Nat) (lines : Nat) (current : List String) :
    List (String × Bool) → List (List String)
  | [] => if current.isEmpty then [] else [current]
  | (word, endsLine) :: rest =>
    let current := current ++ [word]
    if endsLine then
      if count ≤ lines + 1 then current :: groupedByLines count 0 [] rest
      else groupedByLines count (lines + 1) current rest
    else groupedByLines count lines current rest

/-- A text with every place of another one in it taken by a word. -/
def replacedIn (pattern word : List Char) : Nat → List Char → List Char
  | 0, cs => cs
  | _, [] => []
  | fuel + 1, c :: rest =>
    if !pattern.isEmpty && pattern.isPrefixOf (c :: rest) then
      word ++ replacedIn pattern word fuel ((c :: rest).drop pattern.length)
    else c :: replacedIn pattern word fuel rest

/-- What the options of `xargs` say. -/
structure Gathering where
  most : Option Nat
  lines : Option Nat
  mark : Option String
  delimiter : Option Char
  isTraced : Bool

/-- The commands that are to be carried out, and what is wrong after them. -/
def gathered (g : Gathering) (command : List String) (text : String) :
    List (List String) × Option String :=
  let (words, fault) : List (String × Bool) × Option String :=
    match g.delimiter with
    | some d =>
      let parts := splitAt d [] text.toList
      let parts := if parts.getLast? = some [] then parts.dropLast else parts
      (parts.map fun w => (String.ofList w, true), none)
    | none => quotedWords g.mark.isNone (text.length + 2) none [] text.toList
  let commands : List (List String) :=
    match g.mark, g.lines, g.most with
    | some mark, _, _ => words.map fun (item, _) => command.map fun word =>
        String.ofList (replacedIn mark.toList item.toList (word.length + 1) word.toList)
    | none, some n, _ => (groupedByLines n 0 [] words).map (command ++ ·)
    | none, none, some n => (grouped n words.length (words.map (·.1))).map (command ++ ·)
    | none, none, none =>
      if words.isEmpty then [] else (grouped 4000 words.length (words.map (·.1))).map (command ++ ·)
  (commands, fault)

/-- Carries out the commands one after the other; gives the status. -/
def carryOut (c : Call) (isTraced : Bool) : List (List String) → Nat → Program Nat
  | [], status => return status
  | [] :: rest, status => carryOut c isTraced rest status
  | (name :: arguments) :: rest, status => do
    if isTraced then say (" ".intercalate (name :: arguments) ++ "\n")
    let child ← Program.fork do
      let e ← execute name arguments c.environment
      c.complain s!"{name}: {errorText e}"
      return startFailure e
    let end_ ← waitFor child
    match end_.signal?, end_.code? with
    | some signal, _ => do
      c.complain s!"{name}: terminated by signal {signal}"
      return 125
    | none, some 255 => do
      c.complain s!"{name}: exited with status 255; aborting"
      return 124
    | none, some 126 => return 126
    | none, some 127 => return 127
    | none, some 0 => carryOut c isTraced rest status
    | _, _ => carryOut c isTraced rest 123

def xargs : Routine := fun c => do
  let o ← c.options [
    { letter := 'n', takes := .argument, names := ["max-args"] },
    { letter := 'L', takes := .argument, names := ["max-lines"] },
    { letter := 'I', takes := .argument, names := ["replace"] },
    { letter := 'd', takes := .argument, names := ["delimiter"] },
    { letter := 'P', takes := .argument, names := ["max-procs"] },
    { letter := 's', takes := .argument, names := ["max-chars"] },
    { letter := 'a', takes := .argument, names := ["arg-file"] },
    { letter := 'E', takes := .argument, names := ["eof"] },
    { letter := '0', names := ["null"] }, { letter := 'r', names := ["no-run-if-empty"] },
    { letter := 't', names := ["verbose"] }, { letter := 'x', names := ["exit"] },
    { letter := 'i' }] 1 true
  let natural (letter : Char) : Program (Option Nat) := do
    match o.value? letter with
    | none => return none
    | some text =>
      match natural? text with
      | some 0 => do
        c.misused s!"value 0 for -{letter} option should be >= 1"
        Program.exit 1
      | some n => return some n
      | none => do
        c.complain ("invalid number \"" ++ text ++ s!"\" for -{letter} option")
        say s!"Try '{c.name} --help' for more information.\n"
        Program.exit 1
  let g : Gathering := {
    most := ← natural 'n'
    lines := ← natural 'L'
    mark := if o.has 'i' then some "\x7b\x7d" else o.value? 'I'
    delimiter :=
      if o.has '0' then some '\x00'
      else (o.value? 'd').bind fun text => (Format.unescape text).1.toList.head?
    isTraced := o.has 't' }
  let command := if o.operands.isEmpty then ["echo"] else o.operands
  let text ←
    match ← readInput ((o.value? 'a').getD "-") with
    | .ok text => pure text
    | .error (_, e) => do
      let path := (o.value? 'a').getD ""
      c.complain s!"{path}: {errorText e}"
      Program.exit 1
  let null ← Program.ask (.openFile "/dev/null" { reads := true })
  match null with
  | .ok d =>
    if d ≠ 0 then
      discard (Program.ask (.assign d 0))
      discard (Program.ask (.close d))
  | .error _ => pure ()
  let (commands, fault) := gathered g command text
  let commands :=
    if commands.isEmpty && fault.isNone && !o.has 'r' && g.mark.isNone then [command] else commands
  let status ← carryOut c g.isTraced commands 0
  match fault with
  | none => return status
  | some text => do
    c.complain text
    return 1

/-! ## Who and where -/

/-- A program that prints a line and takes no operands. -/
def constantLine (known : List Known) (line : Options → String) : Routine := fun c => do
  let o ← c.options known 1 false
  match o.operands with
  | extra :: _ => do
    c.misused s!"extra operand '{extra}'"
    return 1
  | [] => do
    c.print (line o ++ "\n")
    return 0

def whoami : Routine := constantLine [] fun _ => "root"

def uname : Routine := constantLine [{ letter := 's', names := ["kernel-name"] }] fun _ => "Linux"

def identityOptions : List Known := [
  { letter := 'u', names := ["user"] }, { letter := 'g', names := ["group"] },
  { letter := 'G', names := ["groups"] }, { letter := 'n', names := ["name"] },
  { letter := 'r', names := ["real"] }]

def id : Routine := fun c => do
  let o ← c.options identityOptions 1 false
  match o.operands.filter fun name => name ≠ "root" && name ≠ "0" with
  | name :: _ => do
    c.complain s!"'{name}': no such user"
    return 1
  | [] => do
    let one := o.has 'u' || o.has 'g' || o.has 'G'
    if !one && o.has 'n' then
      c.complain "cannot print only names or real IDs in default format"
      return 1
    c.print (if !one then "uid=0(root) gid=0(root) groups=0(root)\n"
      else if o.has 'n' then "root\n" else "0\n")
    return 0

def tty : Routine := fun c => do
  let o ← c.options [{ letter := 's', names := ["silent", "quiet"] }] 2 false
  if !o.has 's' then c.print "not a tty\n"
  return 1

/-- Looks for programs in the search path. -/
def which : Routine := fun c => do
  let o ← c.options [{ letter := 'a' }] 2 true
  let files ← Program.ask .files
  let path := ((c.environment.find? (·.1 == "PATH")).map (·.2)).getD ""
  let isProgram (text : String) : Bool :=
    match files.node (Octets.text text) with
    | .ok (.file _ isExecutable) => isExecutable
    | .ok (.program _) => true
    | _ => false
  let mut status := if o.operands.isEmpty then 1 else 0
  for name in o.operands do
    let places := if name.toList.contains '/' then [name] else SearchPath.candidates path name
    match places.filter isProgram with
    | [] => status := 1
    | first :: rest =>
      for place in if o.has 'a' then first :: rest else [first] do c.print (place ++ "\n")
  return status

end BindingCoverage.Host.Utility
