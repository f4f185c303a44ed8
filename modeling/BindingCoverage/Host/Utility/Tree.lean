import BindingCoverage.Host.Utility.Names

/-!
# Files and directories

Programs that list, make, copy, move and remove files and directories. A file here is octets and a
mark that says whether it can be started; it has no times, and everybody may read and write it.
-/

namespace BindingCoverage.Host.Utility

/-- The files as they are now. -/
def currentFiles : Program Files := Program.ask .files

def lookUp (files : Files) (text : String) : Except SystemError (Path × Node) := do
  let path ← files.resolve (Octets.text text)
  match files.get? path with
  | some node => return (path, node)
  | none => throw .notFound

/-- The names in a directory, in their order. -/
def sortedNames (files : Files) (path : Path) : List String :=
  ((files.namesIn path).map Octets.ofText).mergeSort

/-- A name in a directory that a text names. -/
def within (directory name : String) : String :=
  if directory.endsWith "/" then directory ++ name else directory ++ "/" ++ name

/-- Carries out an action for each operand; gives the greatest status. -/
def eachOperand (operands : List String) (action : String → Program Nat) : Program Nat := do
  let mut status := 0
  for path in operands do status := max status (← action path)
  return status

/-- A program with operands of which there has to be one. -/
def withOperands (known : List Known) (missing : String)
    (action : Call → Options → String → Program Nat) : Routine := fun c => do
  let o ← c.options known 1 false
  if o.operands.isEmpty then
    c.misused missing
    return 1
  eachOperand o.operands (action c o)

/-! ## ls -/

def lsOptions : List Known := [
  { letter := 'a', names := ["all"] }, { letter := 'A', names := ["almost-all"] },
  { letter := 'd', names := ["directory"] }, { letter := '1' },
  { letter := 'r', names := ["reverse"] }, { letter := 'R', names := ["recursive"] },
  { letter := 'F', names := ["classify"] }, { letter := 'p' },
  { letter := 'm' }, { letter := 'C' }, { letter := 'x' }, { letter := 'U' }, { letter := 't' },
  { letter := 'S' }, { letter := 'X' }, { letter := 'v' }, { letter := 'f' },
  { letter := 'Q', names := ["quote-name"] }, { letter := 'B', names := ["ignore-backups"] },
  { letter := 'κ', takes := .maybe, names := ["color"] }]

/-- A name with a mark for its kind. -/
def marked (o : Options) (node : Option Node) (name : String) : String :=
  let mark :=
    match node with
    | some .directory => if o.has 'F' || o.has 'p' then "/" else ""
    | some (.file _ true) | some (.program _) => if o.has 'F' then "*" else ""
    | _ => ""
  (if o.has 'Q' then "\"" ++ name ++ "\"" else name) ++ mark

/-- Names one below the other, or in a row. -/
def listing (o : Options) (names : List String) : String :=
  if names.isEmpty then ""
  else if o.has 'm' then ", ".intercalate names ++ "\n"
  else if (o.lastOf? ['x', 'C', '1']).any (· != '1') then "  ".intercalate names ++ "\n"
  else String.join (names.map (· ++ "\n"))

/-- The entries of a directory that are shown. -/
def shownNames (o : Options) (files : Files) (path : Path) : List String :=
  let names := sortedNames files path
  let names := if o.has 'B' then names.filter (!·.endsWith "~") else names
  let names :=
    if o.has 'a' || o.has 'f' then "." :: ".." :: names
    else if o.has 'A' then names
    else names.filter (!·.startsWith ".")
  if o.has 'r' then names.reverse else names

/-- The listing of a directory, and of those below it if they are wanted. -/
def listDirectory (o : Options) (files : Files) : Nat → String → Path → List String
  | 0, _, _ => []
  | fuel + 1, text, path =>
    let names := shownNames o files path
    let node (name : String) : Option Node :=
      if name = "." || name = ".." then some .directory
      else files.get? (path ++ [Octets.text name])
    let here := listing o (names.map fun name => marked o (node name) name)
    let inner := if o.has 'R' then names.filter fun name =>
      name ≠ "." && name ≠ ".." && node name == some .directory else []
    (text ++ ":\n" ++ here) :: inner.flatMap fun name =>
      listDirectory o files fuel (within text name) (path ++ [Octets.text name])

def ls : Routine := fun c => do
  let o ← c.options lsOptions 2 false
  let files ← currentFiles
  let mut status := 0
  let mut single : List (String × Node) := []
  let mut directories : List (String × Path) := []
  for text in if o.operands.isEmpty then ["."] else o.operands do
    match lookUp files text with
    | .error e => do
      c.complain s!"cannot access '{text}': {errorText e}"
      status := 2
    | .ok (path, node) =>
      if node = .directory && !o.has 'd' then directories := directories ++ [(text, path)]
      else single := single ++ [(text, node)]
  let order (names : List String) : List String :=
    let names := names.mergeSort
    if o.has 'r' then names.reverse else names
  let singleNames := order (single.map (·.1))
  c.print (listing o (singleNames.map fun name =>
    marked o ((single.find? (·.1 == name)).map (·.2)) name))
  let parts := (order (directories.map (·.1))).flatMap fun text =>
    match directories.find? (·.1 == text) with
    | some (_, path) => listDirectory o files (files.nodes.length + 1) text path
    | none => []
  let titled := 1 < o.operands.length || o.has 'R'
  match parts with
  | [] => return status
  | [one] =>
    if titled then c.print ((if single.isEmpty then "" else "\n") ++ one)
    else c.print (String.ofList (one.toList.drop (one.toList.takeWhile (· != '\n')).length.succ))
  | parts => c.print ((if single.isEmpty then "" else "\n") ++ "\n".intercalate parts)
  return status

/-! ## Making -/

def makeDirectory (path : Path) : Program Unit := Program.ask (.change path (some .directory))

/-- Makes a directory and those above it that are missing; gives the texts of all that were made. -/
def makeAll : List String → List String → Program (Except (String × SystemError) (List String))
  | [], made => return .ok made.reverse
  | text :: rest, made => do
    let files ← currentFiles
    match lookUp files text with
    | .ok (_, .directory) => makeAll rest made
    | .ok _ => return .error (text, if rest.isEmpty then .alreadyThere else .notADirectory)
    | .error _ =>
      match files.place (Octets.text text) with
      | .error e => return .error (text, e)
      | .ok path => do
        makeDirectory path
        makeAll rest (text :: made)

/-- The texts of a path and of those above it, from the root on. -/
def pathsAbove (text : String) : List String :=
  let cs := withoutSlashes text.toList
  let cuts := (List.range cs.length).filter fun i => 0 < i && cs[i]? == some '/'
  cuts.map (fun i => String.ofList (cs.take i)) ++ [String.ofList cs]

def mkdir : Routine := withOperands [
    { letter := 'p', names := ["parents"] }, { letter := 'v', names := ["verbose"] },
    { letter := 'm', takes := .argument, names := ["mode"] }] "missing operand" fun c o text => do
  let files ← currentFiles
  let said (texts : List String) : Program Unit :=
    if o.has 'v' then
      c.print (String.join (texts.map fun t => s!"{c.name}: created directory '{t}'\n"))
    else pure ()
  if o.has 'p' then
    match ← makeAll (pathsAbove text) [] with
    | .ok made => do
      said made
      return 0
    | .error (text, e) => do
      c.complain s!"cannot create directory '{text}': {errorText e}"
      return 1
  else
    let failed (e : SystemError) : Program Nat := do
      c.complain s!"cannot create directory '{text}': {errorText e}"
      return 1
    match lookUp files text with
    | .ok _ => failed .alreadyThere
    | .error _ =>
      match files.place (Octets.text (String.ofList (withoutSlashes text.toList))) with
      | .error e => failed e
      | .ok path => do
        makeDirectory path
        said [text]
        return 0

def touch : Routine := withOperands [
    { letter := 'c', names := ["no-create"] }, { letter := 'a' }, { letter := 'm' },
    { letter := 'd', takes := .argument, names := ["date"] },
    { letter := 'r', takes := .argument, names := ["reference"] },
    { letter := 't', takes := .argument }] "missing file operand" fun c o text => do
  let files ← currentFiles
  match lookUp files text with
  | .ok _ => return 0
  | .error e =>
    if e = .notADirectory && text.endsWith "/" then
      c.complain s!"setting times of '{text}': {errorText e}"
      return 1
    if o.has 'c' then return 0
    match ← Program.ask (.openFile text { writes := true, creates := true }) with
    | .ok d => do
      discard (Program.ask (.close d))
      return 0
    | .error e => do
      c.complain s!"cannot touch '{text}': {errorText e}"
      return 1

/-! ## Removing -/

/-- The paths below a directory and the directory itself, the deepest first. -/
def treeOf (files : Files) : Nat → String → Path → List (String × Path)
  | 0, text, path => [(text, path)]
  | fuel + 1, text, path =>
    let inner :=
      if files.get? path = some .directory then
        (sortedNames files path).flatMap fun name =>
          treeOf files fuel (within text name) (path ++ [Octets.text name])
      else []
    inner ++ [(text, path)]

/-- Asks whether something is to be done, and reads the answer. -/
def confirmed (c : Call) (question : String) : Program Bool := do
  say s!"{c.name}: {question}? "
  let answer ← Program.loop ([] : List String) fun line => do
    match ← Program.ask (.read 0 1) with
    | .ok "" | .ok "\n" | .error _ => return .inr line.reverse
    | .ok s => return .inl (s :: line)
  return answer.head? == some "y" || answer.head? == some "Y"

/-- How a node is called in a question. -/
def nodeKind (node : Option Node) : String :=
  match node with
  | some .directory => "directory"
  | some (.file [] _) => "regular empty file"
  | some (.file _ _) | some (.program _) => "regular file"
  | _ => "character special file"

/-- Removes a directory with all that is in it, as far as the answers allow. The flag says that
nothing was left. -/
def removeTree (c : Call) (o : Options) : Nat → String → Path → Program Bool
  | 0, _, _ => return false
  | fuel + 1, text, path => do
    let files ← currentFiles
    let node := files.get? path
    let isDirectory := node == some .directory
    let names := if isDirectory then sortedNames files path else []
    let may (question : String) : Program Bool :=
      if o.has 'i' then confirmed c question else return true
    if !names.isEmpty then
      if !(← may s!"descend into directory '{text}'") then return false
    let mut isEmpty := true
    for name in names do
      if !(← removeTree c o fuel (within text name) (path ++ [Octets.text name])) then
        isEmpty := false
    if !isEmpty then return false
    if !(← may s!"remove {nodeKind node} '{text}'") then return false
    Program.ask (.change path none)
    if o.has 'v' then
      c.print (if isDirectory then s!"removed directory '{text}'\n" else s!"removed '{text}'\n")
    return true

def rm : Routine := fun c => do
  let o ← c.options [
    { letter := 'r', names := ["recursive"] }, { letter := 'R' },
    { letter := 'f', names := ["force"] }, { letter := 'd', names := ["dir"] },
    { letter := 'v', names := ["verbose"] }, { letter := 'i' }, { letter := 'I' }] 1 false
  if o.operands.isEmpty then
    if o.has 'f' then return 0
    c.misused "missing operand"
    return 1
  let isDeep := o.has 'r' || o.has 'R'
  eachOperand o.operands fun text => do
    let files ← currentFiles
    let failed (why : String) : Program Nat := do
      c.complain s!"cannot remove '{text}': {why}"
      return 1
    match lookUp files text with
    | .error e =>
      if o.has 'f' && (e = .notFound || e = .notADirectory) then return 0
      else failed (errorText e)
    | .ok (path, .directory) => do
      let last := lastName text
      if isDeep && (last = "." || last = "..") then
        c.complain s!"refusing to remove '.' or '..' directory: skipping '{text}'"
        return 1
      if isDeep && path = [] then
        c.complain s!"it is dangerous to operate recursively on '{text}'"
        c.complain "use --no-preserve-root to override this failsafe"
        return 1
      if !isDeep && !o.has 'd' then return ← failed (errorText .isADirectory)
      if !isDeep && !(files.namesIn path).isEmpty then return ← failed (errorText .notEmpty)
      discard (removeTree c o files.nodes.length (String.ofList (withoutSlashes text.toList)) path)
      return 0
    | .ok (path, _) => do
      discard (removeTree c o 1 text path)
      return 0

def removeDirectory (c : Call) (text : String) : Program Nat := do
  let files ← currentFiles
  let failed (e : SystemError) : Program Nat := do
    c.complain s!"failed to remove '{text}': {errorText e}"
    return 1
  match lookUp files text with
  | .error e => failed e
  | .ok (path, .directory) =>
    if (files.namesIn path).isEmpty then do
      Program.ask (.change path none)
      return 0
    else failed .notEmpty
  | .ok _ => failed .notADirectory

def rmdir : Routine := withOperands [
    { letter := 'p', names := ["parents"] }, { letter := 'v', names := ["verbose"] },
    { letter := 'ι', names := ["ignore-fail-on-non-empty"] }] "missing operand" fun c o text => do
  if o.has 'p' then
    let texts := (pathsAbove text).reverse
    Program.loop texts fun texts => do
      match texts with
      | [] => return .inr 0
      | text :: rest => do
        let status ← removeDirectory c text
        return if status = 0 then .inl rest else .inr status
  else removeDirectory c text

def unlink : Routine := fun c => do
  let o ← c.options [] 1 false
  match o.operands with
  | [] => do
    c.misused "missing operand"
    return 1
  | _ :: extra :: _ => do
    c.misused s!"extra operand '{extra}'"
    return 1
  | [text] => do
    match lookUp (← currentFiles) text with
    | .ok (_, .directory) => do
      c.complain s!"cannot unlink '{text}': {errorText .isADirectory}"
      return 1
    | .ok (path, _) => do
      Program.ask (.change path none)
      return 0
    | .error e => do
      c.complain s!"cannot unlink '{text}': {errorText e}"
      return 1

/-! ## Copying and moving -/

/-- Where the operands of a copy lead: each source with its target. -/
def targets (c : Call) (o : Options) : Program (List (String × String)) := do
  let files ← currentFiles
  let isDirectory (text : String) : Bool :=
    match lookUp files text with
    | .ok (_, .directory) => true
    | _ => false
  match o.value? 't', o.operands with
  | some directory, sources => return sources.map fun s => (s, within directory (lastName s))
  | none, [] => do
    c.misused "missing file operand"
    Program.exit 1
  | none, [one] => do
    c.misused s!"missing destination file operand after '{one}'"
    Program.exit 1
  | none, operands => do
    let target := operands.getLast?.getD ""
    let sources := operands.dropLast
    if isDirectory target && !o.has 'T' then
      return sources.map fun s => (s, within target (lastName s))
    else if 1 < sources.length then
      match lookUp files target with
      | .ok _ => c.complain s!"target '{target}': {errorText .notADirectory}"
      | .error e => c.complain s!"target '{target}': {errorText e}"
      Program.exit 1
    else return sources.map fun s => (s, target)

def targetOptions : List Known := [
  { letter := 'f', names := ["force"] }, { letter := 'n', names := ["no-clobber"] },
  { letter := 'v', names := ["verbose"] }, { letter := 'i', names := ["interactive"] },
  { letter := 'T', names := ["no-target-directory"] }, { letter := 'u', names := ["update"] },
  { letter := 't', takes := .argument, names := ["target-directory"] }]

/-- Copies a file, or a directory with all that is in it but the copy itself. The copy as a whole
was asked for with `whole`. -/
def copyTree (c : Call) (o : Options) (isDeep : Bool) (whole : String × String) :
    Nat → String → String → Program Nat
  | 0, _, _ => return 1
  | fuel + 1, source, target => do
    let files ← currentFiles
    let said : Program Unit :=
      if o.has 'v' then c.print s!"'{source}' -> '{target}'\n" else pure ()
    match lookUp files source with
    | .error e => do
      c.complain s!"cannot stat '{source}': {errorText e}"
      return 1
    | .ok (path, .directory) => do
      if !isDeep then
        c.complain s!"-r not specified; omitting directory '{source}'"
        return 1
      match files.place (Octets.text (String.ofList (withoutSlashes target.toList))) with
      | .error e => do
        c.complain s!"cannot create directory '{target}': {errorText e}"
        return 1
      | .ok place => do
        let own := files.place (Octets.text (String.ofList (withoutSlashes whole.2.toList)))
        if own.toOption = some path then
          let (origin, destination) := whole
          c.complain s!"cannot copy a directory, '{origin}', into itself, '{destination}'"
          return 1
        if files.get? place ≠ some .directory then
          if (files.get? place).isSome then
            c.complain s!"cannot overwrite non-directory '{target}' with directory '{source}'"
            return 1
          makeDirectory place
          said
        let mut status := 0
        for name in sortedNames (← currentFiles) path do
          status := max status
            (← copyTree c o isDeep whole fuel (within source name) (within target name))
        return status
    | .ok (path, node) => do
      match lookUp files target with
      | .ok (place, old) => do
        if place = path then
          c.complain s!"'{source}' and '{target}' are the same file"
          return 1
        if old = .directory then
          c.complain s!"cannot overwrite directory '{target}' with non-directory"
          return 1
        if o.has 'n' then return 0
      | .error _ => pure ()
      match node with
      | .file octets isExecutable => do
        match files.place (Octets.text target) with
        | .error e => do
          c.complain s!"cannot create regular file '{target}': {errorText e}"
          return 1
        | .ok place => do
          let isExecutable := match files.get? place with
            | some (.file _ old) => old
            | _ => isExecutable
          Program.ask (.change place (some (.file octets isExecutable)))
          said
          return 0
      | .program name => do
        match files.place (Octets.text target) with
        | .error e => do
          c.complain s!"cannot create regular file '{target}': {errorText e}"
          return 1
        | .ok place => do
          Program.ask (.change place (some (.program name)))
          said
          return 0
      | _ => do
        match ← readInput source with
        | .error (_, e) => do
          c.complain s!"error reading '{source}': {errorText e}"
          return 1
        | .ok text => do
          let opening : Opening := { writes := true, creates := true, empties := true }
          match ← Program.ask (.openFile target opening) with
          | .error e => do
            c.complain s!"cannot create regular file '{target}': {errorText e}"
            return 1
          | .ok d => do
            discard (Program.write d text)
            discard (Program.ask (.close d))
            said
            return 0

def cp : Routine := fun c => do
  let o ← c.options (targetOptions ++ [
    { letter := 'r', names := ["recursive"] }, { letter := 'R' },
    { letter := 'a', names := ["archive"] }, { letter := 'p' }, { letter := 'd' },
    { letter := 'L' }, { letter := 'P' }]) 1 false
  let isDeep := o.has 'r' || o.has 'R' || o.has 'a'
  let mut status := 0
  for (source, target) in ← targets c o do
    status := max status (← copyTree c o isDeep (source, target) 4096 source target)
  return status

def moveOne (c : Call) (o : Options) (source target : String) : Program Nat := do
  let files ← currentFiles
  let failed (text : String) : Program Nat := do
    c.complain text
    return 1
  match lookUp files source with
  | .error e => failed s!"cannot stat '{source}': {errorText e}"
  | .ok (path, node) =>
    match files.place (Octets.text (String.ofList (withoutSlashes target.toList))) with
    | .error e => failed s!"cannot move '{source}' to '{target}': {errorText e}"
    | .ok place => do
      if place = path then return ← failed s!"'{source}' and '{target}' are the same file"
      if node = .directory && path.isPrefixOf place then
        return ← failed s!"cannot move '{source}' to a subdirectory of itself, '{target}'"
      match files.get? place, node with
      | some .directory, .directory =>
        if !(files.namesIn place).isEmpty then
          return ← failed s!"cannot move '{source}' to '{target}': {errorText .notEmpty}"
      | some .directory, _ =>
        return ← failed s!"cannot overwrite directory '{target}' with non-directory"
      | some _, .directory =>
        return ← failed s!"cannot overwrite non-directory '{target}' with directory '{source}'"
      | _, _ => pure ()
      if o.has 'n' && (files.get? place).isSome then return 0
      let tree := (treeOf files files.nodes.length "" path).reverse
      for (_, old) in tree do
        Program.ask (.change (place ++ old.drop path.length) (files.get? old))
      for (_, old) in tree.reverse do Program.ask (.change old none)
      if o.has 'v' then c.print s!"renamed '{source}' -> '{target}'\n"
      return 0

def mv : Routine := fun c => do
  let o ← c.options targetOptions 1 false
  let mut status := 0
  for (source, target) in ← targets c o do status := max status (← moveOne c o source target)
  return status

/-! ## mktemp -/

/-- A name for a template whose last capital letters X are replaced. -/
def filledTemplate (template suffix : String) (n : Nat) : Option String :=
  let cs := template.toList
  let start := (cs.reverse.dropWhile (· == 'X')).reverse
  let count := cs.length - start.length
  if count < 3 then none
  else
    let digits := Nat.toDigits 10 n
    some (String.ofList (start ++ List.replicate (count - digits.length) '0' ++ digits) ++ suffix)

def mktemp : Routine := fun c => do
  let o ← c.options [
    { letter := 'd', names := ["directory"] }, { letter := 'u', names := ["dry-run"] },
    { letter := 'q', names := ["quiet"] },
    { letter := 'p', takes := .argument, names := ["tmpdir"] },
    { letter := 't' }, { letter := 'σ', takes := .argument, names := ["suffix"] }] 1 false
  let directory := (o.value? 'p').getD
    (((c.environment.find? (·.1 == "TMPDIR")).map (·.2)).getD "/tmp")
  let template ←
    match o.operands with
    | [] => pure (within directory "tmp.XXXXXXXXXX")
    | [t] => pure (if o.has 't' || o.has 'p' then within directory t else t)
    | _ => do
      c.misused "too many templates"
      Program.exit 1
  let suffix := (o.value? 'σ').getD ""
  let files ← currentFiles
  let taken (name : String) : Bool := (lookUp files name).isOk
  let candidates := (List.range (files.nodes.length + 1)).filterMap (filledTemplate template suffix)
  match candidates.find? (!taken ·) with
  | none => do
    c.complain s!"too few X's in template '{template}'"
    return 1
  | some name => do
    match files.place (Octets.text name) with
    | .error e => do
      let kind := if o.has 'd' then "directory" else "file"
      c.complain s!"failed to create {kind} via template '{template}': {errorText e}"
      return 1
    | .ok path => do
      if !o.has 'u' then
        Program.ask (.change path (some (if o.has 'd' then .directory else .file [] false)))
      c.print (name ++ "\n")
      return 0

/-! ## Modes and sizes -/

/-- What a mode does to the mark of a file that can be started: nothing inside if the mode leaves it
as it is. -/
def modeEffect? (text : String) : Option (Option Bool) :=
  let cs := text.toList
  if !cs.isEmpty && cs.all Format.isOctal then some (some ((valueIn 8 cs / 64) % 2 == 1))
  else
    (splitAt ',' [] cs).foldl (fun effect clause => do
      let effect ← effect
      let who := clause.takeWhile fun c => "ugoa".toList.contains c
      match clause.drop who.length with
      | sign :: letters =>
        if !"+-=".toList.contains sign || !letters.all "rwxXst".toList.contains then none
        let concerns := who.isEmpty || who.contains 'u' || who.contains 'a'
        if !concerns then some effect
        else if letters.contains 'x' then some (some (sign != '-'))
        else if sign = '=' then some (some false)
        else some effect
      | [] => none) (some none)

def chmod : Routine := fun c => do
  let (modes, rest) : List String × List String :=
    match c.arguments with
    | a :: rest =>
      if a.startsWith "-" && (modeEffect? a).isSome then ([a], rest) else ([], a :: rest)
    | [] => ([], [])
  let o ← ({ c with arguments := rest } : Call).options [
    { letter := 'R', names := ["recursive"] }, { letter := 'v', names := ["verbose"] },
    { letter := 'c', names := ["changes"] },
    { letter := 'f', names := ["silent", "quiet"] }] 1 false
  match modes ++ o.operands with
  | [] => do
    c.misused "missing operand"
    return 1
  | [mode] => do
    c.misused s!"missing operand after '{mode}'"
    return 1
  | mode :: paths => do
    match modeEffect? mode with
    | none => do
      c.misused s!"invalid mode: '{mode}'"
      return 1
    | some effect =>
      eachOperand paths fun text => do
        let files ← currentFiles
        match lookUp files text with
        | .error e => do
          c.complain s!"cannot access '{text}': {errorText e}"
          return 1
        | .ok (path, _) => do
          let all :=
            if o.has 'R' then (treeOf files files.nodes.length text path).map (·.2) else [path]
          for path in all do
            match files.get? path, effect with
            | some (.file octets old), some new =>
              if old ≠ new then Program.ask (.change path (some (.file octets new)))
            | _, _ => pure ()
          return 0

def truncate : Routine := fun c => do
  let o ← c.options [
    { letter := 's', takes := .argument, names := ["size"] },
    { letter := 'c', names := ["no-create"] },
    { letter := 'r', takes := .argument, names := ["reference"] }] 1 false
  match o.value? 's' with
  | none => do
    c.misused "you must specify either '--size' or '--reference'"
    return 1
  | some text => do
    let (sign, digits) : Option Char × List Char :=
      match text.toList with
      | '+' :: rest => (some '+', rest)
      | '-' :: rest => (some '-', rest)
      | cs => (none, cs)
    match amount? digits with
    | none => do
      c.complain s!"Invalid number: '{text}'"
      return 1
    | some n => do
      if o.operands.isEmpty then
        c.misused "missing file operand"
        return 1
      eachOperand o.operands fun path => do
        let files ← currentFiles
        let failed (e : SystemError) : Program Nat := do
          c.complain s!"cannot open '{path}' for writing: {errorText e}"
          return 1
        match files.place (Octets.text path) with
        | .error e => failed e
        | .ok place =>
          let resized (octets : List UInt8) : List UInt8 :=
            let size := match sign with
              | some '+' => octets.length + n
              | some _ => octets.length - n
              | none => n
            octets.take size ++ List.replicate (size - octets.length) 0
          match files.get? place with
          | some (.file octets isExecutable) => do
            Program.ask (.change place (some (.file (resized octets) isExecutable)))
            return 0
          | none => do
            if !o.has 'c' then Program.ask (.change place (some (.file (resized []) false)))
            return 0
          | some .directory => failed .isADirectory
          | some _ => return 0

/-! ## stat -/

/-- What a directive of a format says about a file. -/
def statField (text : String) (node : Node) (c : Char) : String :=
  match c, node with
  | 'n', _ => text
  | 's', .file octets _ => toString octets.length
  | 's', _ => "4096"
  | 'F', .directory => "directory"
  | 'F', .file [] _ => "regular empty file"
  | 'F', .file _ _ | 'F', .program _ => "regular file"
  | 'F', _ => "character special file"
  | 'a', .directory | 'a', .file _ true | 'a', .program _ => "755"
  | 'a', .file _ false => "644"
  | 'a', _ => "666"
  | 'A', .directory => "drwxr-xr-x"
  | 'A', .file _ true | 'A', .program _ => "-rwxr-xr-x"
  | 'A', .file _ false => "-rw-r--r--"
  | 'A', _ => "crw-rw-rw-"
  | 'U', _ | 'G', _ => "root"
  | 'u', _ | 'g', _ => "0"
  | '%', _ => "%"
  | c, _ => String.ofList ['%', c]

def statText (text : String) (node : Node) : List Char → String
  | '%' :: c :: rest => statField text node c ++ statText text node rest
  | c :: rest => String.singleton c ++ statText text node rest
  | [] => ""

def stat : Routine := withOperands [
    { letter := 'c', takes := .argument, names := ["format"] },
    { letter := 'π', takes := .argument, names := ["printf"] },
    { letter := 'L', names := ["dereference"] }] "missing operand" fun c o text => do
  match lookUp (← currentFiles) text with
  | .error e => do
    c.complain s!"cannot statx '{text}': {errorText e}"
    return 1
  | .ok (_, node) => do
    match o.value? 'π', o.value? 'c' with
    | some format, _ => c.print (statText text node (Format.unescape format).1.toList)
    | none, some format => c.print (statText text node format.toList ++ "\n")
    | none, none => c.print (statText text node "  File: %n\n".toList)
    return 0

/-! ## cmp -/

/-- The first place where two texts differ, with its line. -/
def firstDifference (place line : Nat) : List Char → List Char → Option (Nat × Nat)
  | a :: as, b :: bs =>
    if a = b then firstDifference (place + 1) (if a = '\n' then line + 1 else line) as bs
    else some (place, line)
  | _, _ => none

/-- The places where two texts differ, with the characters there. -/
def differences (as bs : List Char) : List (Nat × Char × Char) :=
  ((as.zip bs).zipIdx.filter fun ((a, b), _) => a != b).map fun ((a, b), i) => (i + 1, a, b)

def cmp : Routine := fun c => do
  let o ← c.options [
    { letter := 's', names := ["quiet", "silent"] }, { letter := 'l', names := ["verbose"] },
    { letter := 'b', names := ["print-bytes"] },
    { letter := 'n', takes := .argument, names := ["bytes"] }] 2 false
  let read (path : String) : Program (List Char) := do
    match ← readInput path with
    | .ok text =>
      return match (o.value? 'n').bind natural? with
        | some n => text.toList.take n
        | none => text.toList
    | .error (_, e) => do
      if !o.has 's' then c.complain s!"{path}: {errorText e}"
      Program.exit 2
  match o.operands with
  | [] => do
    c.complain s!"missing operand after '{c.name}'"
    c.complain s!"Try '{c.name} --help' for more information."
    return 2
  | first :: rest => do
    let second := rest.headD "-"
    let as ← read first
    let bs ← read second
    let shorter := if as.length ≤ bs.length then (first, as) else (second, bs)
    let eof : Program Nat := do
      if as.length = bs.length then return 0
      if !o.has 's' then
        let n := shorter.2.length
        let lines := (shorter.2.filter (· == '\n')).length
        if n = 0 then c.complain s!"EOF on {shorter.1} which is empty"
        else if shorter.2.getLast? = some '\n' then
          c.complain s!"EOF on {shorter.1} after byte {n}, line {lines}"
        else c.complain s!"EOF on {shorter.1} after byte {n}, in line {lines + 1}"
      return 1
    if o.has 'l' then
      let found := differences as bs
      let width := (toString (max as.length bs.length)).length
      let octal (ch : Char) : String :=
        let digits := String.ofList (Nat.toDigits 8 ch.toNat)
        Format.repeated (3 - digits.length) ' ' ++ digits
      c.print (String.join (found.map fun (n, a, b) =>
        let digits := toString n
        Format.repeated (width - digits.length) ' ' ++ s!"{digits} {octal a} {octal b}\n"))
      let status ← eof
      return if found.isEmpty then status else 1
    else
      match firstDifference 1 1 as bs with
      | some (place, line) => do
        if !o.has 's' then c.print s!"{first} {second} differ: char {place}, line {line}\n"
        return 1
      | none => eof

end BindingCoverage.Host.Utility
