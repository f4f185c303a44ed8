import BindingCoverage.Host.Utility.Copying
import BindingCoverage.Host.Utility.Editor.Reader

/-!
# The stream editor

`sed` reads one line after the other and carries out its script on each. What is printed is kept
until there is a block of it.
-/

namespace BindingCoverage.Host.Utility.Editor

/-- Where lines are written to. -/
structure Sink where
  path : String
  /-- Nothing if the text is kept for a file that is being changed. -/
  descriptor : Option Nat
  /-- What is not written yet, the last part first. -/
  parts : List String := []
  size : Nat := 0
  /-- Whether the last line that was written has no end. -/
  lacksEnd : Bool := false

/-- What is printed when the script is done with a line. -/
inductive Later where
  | text (s : String)
  | file (path : String)
  | line (path : String)

structure State where
  pattern : List Char := []
  /-- Whether the line had an end. -/
  hasEnd : Bool := true
  held : List Char := []
  number : Nat := 0
  later : List Later := []
  /-- Whether something was substituted since the line was read. -/
  isDone : Bool := false
  lastUsed : Option Regex := none
  /-- For each instruction the line at which its range ends, if it is in one; zero if that is not
  known. -/
  ranges : Array (Option Nat)
  sinks : List Sink
  /-- The lines that were read already. -/
  ready : List Line := []
  /-- The start of the next line, its last character first. -/
  begun : List Char := []
  descriptor : Option Nat := none
  path : String := "-"
  files : List String
  readers : List (String × List Line) := []
  status : Nat := 0

/-- How the editor was started. -/
structure Setting where
  call : Call
  script : Script
  isQuiet : Bool
  isSeparate : Bool
  /-- Whether files are changed, and what is added to the names of the old ones. -/
  inPlace : Option String
  ending : Char
  width : Nat
  isPosix : Bool

abbrev Editing := StateT State Program

/-! ## Output -/

def lift {α : Type} (p : Program α) : Editing α := StateT.lift p

def blockLength : Nat := 4096

/-- Writes what a sink has kept. -/
def Sink.flush (k : Setting) (s : Sink) : Program Sink := do
  match s.descriptor with
  | none => return s
  | some d =>
    if s.parts.isEmpty then return s
    match ← Program.write d (String.join s.parts.reverse) with
    | .ok () => return { s with parts := [], size := 0 }
    | .error e => do
      let name := if d = 1 then "stdout" else s.path
      k.call.complain s!"couldn't flush {name}: {errorText e}"
      Program.exit 4

/-- Puts a text into a sink. -/
def Sink.put (k : Setting) (text : String) (s : Sink) : Program Sink := do
  let s := { s with parts := text :: s.parts, size := s.size + text.length }
  if blockLength ≤ s.size || (s.descriptor ≠ some 1 && s.descriptor.isSome) then s.flush k
  else return s

/-- Puts a text into the sink with a name; the end that a line before it lacks comes first. -/
def putTo (k : Setting) (path text : String) (lacksEnd : Bool) : Editing Unit := do
  let s ← get
  let sinks ← lift (s.sinks.mapM fun sink =>
    if sink.path = path then do
      let start := if sink.lacksEnd then String.singleton k.ending else ""
      let sink ← sink.put k (start ++ text)
      return { sink with lacksEnd }
    else return sink)
  set { s with sinks }

/-- The name of the sink that is the output of the editor. -/
def mainPath : String := "/dev/stdout"

def put (k : Setting) (text : String) : Editing Unit := putTo k mainPath text false

/-- Prints a line. -/
def putLine (k : Setting) (path : String) (line : List Char) (hasEnd : Bool) : Editing Unit :=
  putTo k path (String.ofList (if hasEnd then line ++ [k.ending] else line)) (!hasEnd)

def flushAll (k : Setting) : Editing Unit := do
  let s ← get
  let sinks ← lift (s.sinks.mapM (·.flush k))
  set { s with sinks }

/-! ## Input -/

/-- Puts the text that was kept into the file that is being changed. -/
def closeInPlace (k : Setting) (path : String) : Editing Unit := do
  match k.inPlace with
  | none => return
  | some suffix => do
    let s ← get
    let text := String.join (s.sinks.flatMap fun sink =>
      if sink.path = mainPath then sink.parts.reverse else [])
    let files ← lift (Program.ask .files)
    match files.resolve (Octets.text path) with
    | .error _ => return
    | .ok place => do
      let isExecutable := match files.get? place with
        | some (.file _ isExecutable) => isExecutable
        | _ => false
      match files.get? place with
      | some old =>
        if !suffix.isEmpty then
          match files.place (Octets.text (path ++ suffix)) with
          | .ok backup => lift (Program.ask (.change backup (some old)))
          | .error _ => pure ()
      | none => pure ()
      lift (Program.ask (.change place (some (.file (Octets.toList text) isExecutable))))
      let emptied (sink : Sink) : Sink :=
        if sink.path = mainPath then { sink with parts := [], size := 0, lacksEnd := false }
        else sink
      set { s with sinks := s.sinks.map emptied }

/-- Lines with an ending of their own; the characters of the line under way come last first. -/
def split (ending : Char) (current : List Char) (done : List Line) : List Char →
    List Line × List Char
  | [] => (done.reverse, current)
  | c :: rest =>
    if c = ending then split ending [] (⟨current.reverse, true⟩ :: done) rest
    else split ending (c :: current) done rest

/-- Opens the next file that can be opened; whether there was one. -/
def openNext (k : Setting) : List String → Editing Bool
  | [] => do
    modify fun s => { s with files := [] }
    return false
  | path :: rest => do
    let failed (text : String) : Editing Bool := do
      lift (k.call.complain text)
      modify fun s => { s with status := 2 }
      openNext k rest
    let files ← lift (Program.ask .files)
    let isOther := match files.node (Octets.text path) with
      | .ok (.file _ _) | .error _ => false
      | .ok _ => true
    if k.inPlace.isSome && isOther then
      let result ← failed s!"couldn't edit {path}: not a regular file"
      modify fun s => { s with status := 4 }
      return result
    match ← lift (openInput path) with
    | .error e => failed s!"can't read {path}: {errorText e}"
    | .ok d => do
      modify fun s => { s with
        files := rest
        descriptor := some d
        path
        number := if k.isSeparate then 0 else s.number }
      return true

/-- Reads from the file that is open until there is a line; whether there is one. -/
def fill (k : Setting) (d : Nat) : Nat → Editing Bool
  | 0 => return false
  | fuel + 1 => do
    match ← lift (Program.read d) with
    | .error e => do
      let s ← get
      let name := if s.path = "-" then "stdin" else s.path
      flushAll k
      lift (k.call.complain s!"read error on {name}: {errorText e}")
      lift (Program.exit 4)
    | .ok "" => do
      let s ← get
      if s.begun.isEmpty then return false
      set { s with ready := [⟨s.begun.reverse, false⟩], begun := [] }
      return true
    | .ok piece => do
      let s ← get
      let (lines, rest) := split k.ending s.begun [] piece.toList
      set { s with ready := lines, begun := rest }
      if lines.isEmpty then fill k d fuel else return true

/-- Whether the file that is open has another line. -/
def hasMoreHere (k : Setting) : Editing Bool := do
  let s ← get
  if !s.ready.isEmpty then return true
  match s.descriptor with
  | none => return false
  | some d => fill k d Program.unbounded

/-- Whether there is another line; files are opened and closed for it. -/
def hasMore (k : Setting) : Nat → Editing Bool
  | 0 => return false
  | fuel + 1 => do
    if ← hasMoreHere k then return true
    let s ← get
    match s.descriptor with
    | some d => do
      lift (closeInput d)
      set { s with descriptor := none }
      closeInPlace k s.path
    | none => pure ()
    if ← openNext k (← get).files then hasMore k fuel else return false

/-- Whether the line is the last one. -/
def isLast (k : Setting) : Editing Bool := do
  if k.isSeparate then
    if ← hasMoreHere k then return false
    return true
  let s ← get
  if ← hasMoreHere k then return false
  return !(← hasMore k (s.files.length + 2))

/-- Takes the next line, if there is one. -/
def nextLine (k : Setting) : Editing (Option Line) := do
  if ← hasMore k ((← get).files.length + 2) then
    let s ← get
    match s.ready with
    | [] => return none
    | l :: rest => do
      set { s with ready := rest, number := s.number + 1 }
      return some l
  else return none

/-! ## What is printed later -/

def putLater (k : Setting) : Editing Unit := do
  let later := (← get).later
  modify fun s => { s with later := [] }
  for l in later do
    match l with
    | .text text => put k text
    | .file path =>
      match ← lift (readInput (if path = "/dev/stdin" then "-" else path)) with
      | .ok text => if !text.isEmpty then putTo k mainPath text false
      | .error _ => pure ()
    | .line path => do
      let s ← get
      let lines ←
        match s.readers.find? (·.1 == path) with
        | some (_, lines) => pure lines
        | none =>
          match ← lift (readInput path) with
          | .ok text => pure (linesOf text)
          | .error _ => pure []
      modify fun s => { s with
        readers := (path, lines.drop 1) :: s.readers.filter (·.1 != path) }
      match lines with
      | l :: _ => putLine k mainPath l.text true
      | [] => pure ()

/-- What happens at the end of a cycle. -/
def endCycle (k : Setting) (prints : Bool) : Editing Unit := do
  let s ← get
  if prints && !k.isQuiet then putLine k mainPath s.pattern s.hasEnd
  putLater k

/-! ## Conditions -/

/-- The first match in the line from a place on, and the expression that was used. -/
def match? (search : Search) (line : List Char) (start : Nat) : Editing (Option Regex.Match) := do
  let s ← get
  let r := search.expression.getD (s.lastUsed.getD .empty)
  set { s with lastUsed := some r }
  return r.search ⟨line.toArray, search.foldsCase, search.hasLines⟩ start

def fits (k : Setting) : Address → Editing Bool
  | .line n => do return (← get).number == n
  | .step first step => do
    let n := (← get).number
    return first ≤ n && (n - first) % step == 0
  | .last => isLast k
  | .search search => do return (← match? search (← get).pattern 0).isSome

/-- Whether an instruction is for the line. -/
def applies (k : Setting) (index : Nat) (c : Condition) : Editing Bool := do
  let s ← get
  let setRange (r : Option Nat) : Editing Unit :=
    modify fun s => { s with ranges := s.ranges.setIfInBounds index r }
  let result ←
    match c.first, c.last with
    | none, _ => pure true
    | some first, none => fits k first
    | some first, some stop =>
      match (s.ranges[index]?).join with
      | some until_ =>
        match stop with
        | .search search => do
          if (← match? search s.pattern 0).isSome then setRange none
          pure true
        | .last => do
          if ← isLast k then setRange none
          pure true
        | _ => do
          if until_ ≤ s.number then setRange none
          pure (s.number ≤ until_)
      | none => do
        if ← fits k first then
          let n := s.number
          match stop with
          | .line m => if n < m then setRange (some m)
          | .after count => if 0 < count then setRange (some (n + count))
          | .multiple factor =>
            if 0 < factor && n % factor ≠ 0 then setRange (some (n + factor - n % factor))
          | .last => if !(← isLast k) then setRange (some 0)
          | .search _ => setRange (some 0)
          pure true
        else pure false
  return result != c.isNegated

/-! ## Substitutions -/

/-- How the letters that come next are changed. -/
structure CasingState where
  whole : Casing := .asIs
  next : Option Casing := none

def cased (c : Casing) (ch : Char) : Char :=
  match c with
  | .upper | .nextUpper => ch.toUpper
  | .lower | .nextLower => ch.toLower
  | .asIs => ch

def putCased (state : CasingState) (text : List Char) : List Char × CasingState :=
  match text with
  | [] => ([], state)
  | ch :: rest =>
    let first := cased (state.next.getD state.whole) ch
    (first :: rest.map (cased state.whole), { state with next := none })

/-- The text that a replacement gives for a match. -/
def replaced (line : List Char) (m : Regex.Match) (pieces : List Piece) : List Char :=
  (pieces.foldl (fun (done, state) piece =>
    let add (text : List Char) : List (List Char) × CasingState :=
      let (text, state) := putCased state text
      (text :: done, state)
    match piece with
    | .text text => add text
    | .group n =>
      match m.group? n with
      | some (a, b) => add ((line.drop a).take (b - a))
      | none => add []
    | .casing .nextUpper => (done, { state with next := some .nextUpper })
    | .casing .nextLower => (done, { state with next := some .nextLower })
    | .casing c => (done, { whole := c, next := none }))
    (([] : List (List Char)), ({} : CasingState))).1.reverse.flatten

/-- The line after a substitution, and whether anything was replaced. `start` is where the search
goes on, `count` how many matches there were; an empty match right after another one does not
count. -/
def substituted (s : Substitution) (line : List Char) : Nat → Nat → Nat → Option Nat →
    List (List Char) → Bool → Editing (List Char × Bool)
  | 0, start, _, _, done, changed => return ((line.drop start :: done).reverse.flatten, changed)
  | fuel + 1, start, count, before, done, changed => do
    if line.length < start then return (done.reverse.flatten, changed)
    match ← match? s.search line start with
    | none => return ((line.drop start :: done).reverse.flatten, changed)
    | some m =>
      let skipped := (line.drop start).take (m.start - start)
      if m.start = m.stop && before = some m.start then
        let step := (line.drop m.start).take 1
        substituted s line fuel (m.start + 1) count none (step :: skipped :: done) changed
      else
        let count := count + 1
        let isChosen := s.number ≤ count
        let text :=
          if isChosen then replaced line m s.replacement
          else (line.drop m.start).take (m.stop - m.start)
        let done := text :: skipped :: done
        if isChosen && !s.isGlobal then
          return ((line.drop m.stop :: done).reverse.flatten, true)
        else if m.start = m.stop then
          let step := (line.drop m.stop).take 1
          substituted s line fuel (m.stop + 1) count none (step :: done) (changed || isChosen)
        else substituted s line fuel m.stop count (some m.stop) done (changed || isChosen)

/-! ## Instructions -/

/-- A line in a form that can be seen, cut into rows. -/
def shown (width : Nat) (line : List Char) : String :=
  let one (c : Char) : List Char :=
    match c with
    | '\\' => ['\\', '\\']
    | '\x07' => ['\\', 'a']
    | '\x08' => ['\\', 'b']
    | '\x0c' => ['\\', 'f']
    | '\n' => ['\\', 'n']
    | '\r' => ['\\', 'r']
    | '\t' => ['\\', 't']
    | '\x0b' => ['\\', 'v']
    | c =>
      if ' ' ≤ c && c ≤ '~' then [c]
      else
        let digits := Nat.toDigits 8 c.toNat
        '\\' :: List.replicate (3 - digits.length) '0' ++ digits
  let (row, rows) := line.foldl (fun (row, rows) c =>
    let cs := one c
    if 1 < width && width - 1 < row.length + cs.length then (cs, (row ++ ['\\', '\n']) :: rows)
    else (row ++ cs, rows)) (([] : List Char), ([] : List (List Char)))
  String.ofList (rows.reverse.flatten ++ row ++ ['$', '\n'])

/-- What the output of a command is. -/
def outputOf (command : String) : Program String := do
  let (r, w) ← Program.ask .pipe
  let child ← Program.fork do
    discard (Program.ask (.close r))
    discard (Program.ask (.assign w 1))
    discard (Program.ask (.close w))
    discard (Program.ask (.replace "/bin/sh" ["sh", "-c", command] []))
    return 127
  discard (Program.ask (.close w))
  let text ← Program.readAll r
  discard (Program.ask (.close r))
  Program.loop () fun _ => do
    match ← Program.ask (.wait none) with
    | .ended number _ => return if number = child then .inr () else .inl ()
    | _ => return .inr ()
  return text.toOption.getD ""

/-- How things go on after an instruction. -/
inductive After where
  | next
  | goto (place : Nat)
  /-- The cycle is over, and the line may be printed. -/
  | finish (prints : Bool)
  /-- The cycle begins again with what is left of the line. -/
  | again
  | quit (prints : Bool) (code : Nat)

def substitute (k : Setting) (s : Substitution) : Editing After := do
  let line := (← get).pattern
  let (line, changed) ← substituted s line (2 * line.length + 3) 0 0 none [] false
  if changed then
    modify fun t => { t with pattern := line, isDone := true }
    if s.evaluates then
      flushAll k
      let output ← lift (outputOf (String.ofList line))
      let cs := output.toList
      modify fun t => { t with
        pattern := if cs.getLast? = some '\n' then cs.dropLast else cs }
    let t ← get
    if s.prints then putLine k mainPath t.pattern t.hasEnd
    match s.file with
    | some path => putLine k path t.pattern t.hasEnd
    | none => pure ()
  return .next

/-- The part of the line before its first line end. -/
def firstPart (line : List Char) : List Char := line.takeWhile (· != '\n')

def perform (k : Setting) (index : Nat) (i : Instruction) : Editing After := do
  let s ← get
  match i.deed with
  | .block _ | .nothing => return .next
  | .append text => do
    modify fun s => { s with later := s.later ++ [Later.text (String.ofList text)] }
    return .next
  | .insert text => do
    put k (String.ofList text)
    return .next
  | .change text => do
    let isInside := i.condition.last.isSome && !i.condition.isNegated &&
      ((s.ranges[index]?).join).isSome
    if !isInside then put k (String.ofList text)
    return .finish false
  | .branch target => do
    lift (Program.pass 100)
    return .goto target
  | .branchIfDone target =>
    if s.isDone then do
      lift (Program.pass 100)
      set { s with isDone := false }
      return .goto target
    else return .next
  | .branchUnlessDone target =>
    if s.isDone then do
      set { s with isDone := false }
      return .next
    else do
      lift (Program.pass 100)
      return .goto target
  | .delete => return .finish false
  | .deleteFirst =>
    if s.pattern.contains '\n' then do
      set { s with pattern := s.pattern.drop ((firstPart s.pattern).length + 1) }
      return .again
    else return .finish false
  | .execute command => do
    flushAll k
    if command.isEmpty then
      let output ← lift (outputOf (String.ofList s.pattern))
      let cs := output.toList
      modify fun s => { s with pattern := if cs.getLast? = some '\n' then cs.dropLast else cs }
    else put k (← lift (outputOf (String.ofList command)))
    return .next
  | .fileName => do
    put k (s.path ++ "\n")
    return .next
  | .getHeld => do
    set { s with pattern := s.held }
    return .next
  | .getHeldToo => do
    set { s with pattern := s.pattern ++ [k.ending] ++ s.held }
    return .next
  | .hold => do
    set { s with held := s.pattern }
    return .next
  | .holdToo => do
    set { s with held := s.held ++ [k.ending] ++ s.pattern }
    return .next
  | .exchange => do
    set { s with pattern := s.held, held := s.pattern }
    return .next
  | .show_ width => do
    put k (shown (width.getD k.width) s.pattern)
    return .next
  | .next => do
    if ← hasMore k (s.files.length + 2) then
      if !k.isQuiet then putLine k mainPath s.pattern s.hasEnd
      putLater k
      match ← nextLine k with
      | some l => modify fun s => { s with pattern := l.text, hasEnd := l.hasEnd }
      | none => pure ()
      return .next
    else return .quit (!k.isPosix) 0
  | .nextToo => do
    if ← hasMore k (s.files.length + 2) then
      putLater k
      match ← nextLine k with
      | some l => modify fun t => { t with
          pattern := t.pattern ++ [k.ending] ++ l.text, hasEnd := l.hasEnd }
      | none => pure ()
      return .next
    else return .quit (!k.isPosix) 0
  | .print => do
    putLine k mainPath s.pattern s.hasEnd
    return .next
  | .printFirst => do
    let part := firstPart s.pattern
    putLine k mainPath part (s.hasEnd || part.length < s.pattern.length)
    return .next
  | .quit code => return .quit true code
  | .quitSilently code => do
    modify fun s => { s with later := [] }
    return .quit false code
  | .readFile path => do
    set { s with later := s.later ++ [Later.file path] }
    return .next
  | .readLine path => do
    set { s with later := s.later ++ [Later.line path] }
    return .next
  | .substitute sub => substitute k sub
  | .translate images => do
    let image (c : Char) : Char := ((images.find? (·.1 == c)).map (·.2)).getD c
    set { s with pattern := s.pattern.map image }
    return .next
  | .lineNumber => do
    put k (toString s.number ++ "\n")
    return .next
  | .writeFile path => do
    putLine k path s.pattern s.hasEnd
    return .next
  | .writeFirst path => do
    putLine k path (firstPart s.pattern) true
    return .next
  | .clear => do
    set { s with pattern := [] }
    return .next

/-- Carries out the script from a place on. -/
def runFrom (k : Setting) : Nat → Nat → Editing After
  | 0, _ => lift Program.stall
  | fuel + 1, index => do
    match k.script.instructions[index]? with
    | none => return .finish true
    | some i =>
      if ← applies k index i.condition then
        match ← perform k index i with
        | .next => runFrom k fuel (index + 1)
        | .goto place => runFrom k fuel place
        | after => return after
      else
        match i.deed with
        | .block after => runFrom k fuel after
        | _ => runFrom k fuel (index + 1)

/-- Cycle after cycle; gives the exit status. The flag says that the line stays. -/
def cycles (k : Setting) : Nat → Bool → Editing Nat
  | 0, _ => lift Program.stall
  | fuel + 1, keepsLine => do
    let isThere ←
      if keepsLine then pure true
      else
        match ← nextLine k with
        | some l => do
          modify fun s => { s with pattern := l.text, hasEnd := l.hasEnd, isDone := false }
          pure true
        | none => pure false
    if !isThere then return (← get).status
    match ← runFrom k Program.unbounded 0 with
    | .finish prints => do
      endCycle k prints
      cycles k fuel false
    | .again => do
      putLater k
      cycles k fuel true
    | .quit prints code => do
      endCycle k prints
      let s ← get
      if k.inPlace.isSome && s.descriptor.isSome then closeInPlace k s.path
      return if code = 0 then s.status else code
    | .next | .goto _ => return (← get).status

/-! ## The program -/

def options : List Known := [
  { letter := 'n', names := ["quiet", "silent"] },
  { letter := 'e', takes := .argument, names := ["expression"] },
  { letter := 'f', takes := .argument, names := ["file"] },
  { letter := 'E', names := ["regexp-extended"] }, { letter := 'r' },
  { letter := 'i', takes := .maybe, names := ["in-place"] },
  { letter := 'l', takes := .argument, names := ["line-length"] },
  { letter := 's', names := ["separate"] }, { letter := 'u', names := ["unbuffered"] },
  { letter := 'z', names := ["null-data"] }, { letter := 'π', names := ["posix"] },
  { letter := 'δ', names := ["debug"] }, { letter := 'σ', names := ["sandbox"] },
  { letter := 'φ', names := ["follow-symlinks"] }, { letter := 'b', names := ["binary"] }]

def misuse (c : Call) : Program Nat := do
  say s!"Usage: {c.name} [OPTION]... \x7bscript-only-if-no-other-script\x7d [input-file]...\n\n"
  return 1

/-- Adds a part of the script. The last argument says how a fault is reported. -/
def addPart (c : Call) (p : Progress) (text : String) (place : Fault → String) :
    Program Progress := do
  match (Reading.part text).run p with
  | .ok ((), p) => return p
  | .error f => do
    c.complain (place f ++ ": " ++ f.text)
    Program.exit 1

/-- The line of a file in which a fault was found. -/
def lineOf (text : String) (position : Nat) : Nat :=
  ((text.toList.take position).filter (· == '\n')).length + 1

/-- The script that the options bring, and the operands that are left. -/
def scriptOf (c : Call) (o : Options) : Program (Script × List String) := do
  let start : Progress := { source := ⟨[], 0⟩, isExtended := o.has 'E' || o.has 'r' }
  let expression (number : Nat) (f : Fault) : String :=
    s!"-e expression #{number}, char {f.position}"
  let mut p := start
  let mut number := 0
  let mut operands := o.operands
  if o.has 'e' || o.has 'f' then
    for (letter, value) in o.given do
      let text := value.getD ""
      if letter = 'e' then
        number := number + 1
        p ← addPart c p text (expression number)
      if letter = 'f' then
        match ← readInput text with
        | .error (_, e) => do
          c.complain s!"couldn't open file {text}: {errorText e}"
          Program.exit 1
        | .ok body =>
          let file := text
          let cs := body.toList
          let body := if cs.getLast? = some '\n' then String.ofList cs.dropLast else body
          p ← addPart c p body fun f => s!"file {file} line {lineOf body f.position}"
  else
    match operands with
    | [] => do
      let status ← misuse c
      Program.exit status
    | first :: rest => do
      operands := rest
      p ← addPart c p first (expression 1)
  if !p.blocks.isEmpty then
    c.complain "-e expression #1, char 0: unmatched \x60\x7b'"
    Program.exit 1
  match p.script with
  | .ok s => return (s, operands)
  | .error text => do
    c.complain text
    Program.exit 1

/-- The files that a script writes to. -/
def writtenPaths (s : Script) : List String :=
  (s.instructions.toList.filterMap fun i =>
    match i.deed with
    | .writeFile path | .writeFirst path => some path
    | .substitute sub => sub.file
    | _ => none).eraseDups

/-- Opens the files that a script writes to. -/
def openSinks (c : Call) : List String → Program (List Sink)
  | [] => return []
  | path :: rest => do
    if path = mainPath then openSinks c rest
    else if path = "/dev/stderr" then
      return { path, descriptor := some 2 } :: (← openSinks c rest)
    else
      match ← Program.ask (.openFile path { writes := true, creates := true, empties := true }) with
      | .ok d => do return { path, descriptor := some d } :: (← openSinks c rest)
      | .error e => do
        c.complain s!"couldn't open file {path}: {errorText e}"
        Program.exit 4

/-- Whether an expression is missing that an empty one could stand for. -/
def lacksExpression (s : Script) : Bool :=
  let empty (x : Search) : Bool := x.expression.isNone
  let searches := s.instructions.toList.flatMap fun i =>
    (match i.condition.first with
      | some (.search x) => [empty x]
      | _ => []) ++
    (match i.condition.last with
      | some (.search x) => [empty x]
      | _ => []) ++
    (match i.deed with
      | .substitute sub => [empty sub.search]
      | _ => [])
  searches.head? == some true

end Editor

open Editor in
def sed : Routine := fun c => do
  match Options.parse Editor.options false c.arguments with
  | .error text => do
    c.complain text
    misuse c
  | .ok o => do
    let (script, operands) ← scriptOf c o
    if lacksExpression script then
      c.complain "-e expression #1, char 0: no previous regular expression"
      Program.exit 1
    let inPlace := if o.has 'i' then some ((o.value? 'i').getD "") else none
    if inPlace.isSome && operands.isEmpty then
      c.complain "no input files"
      Program.exit 4
    let k : Setting := {
      call := c
      script
      isQuiet := o.has 'n' || script.isQuiet
      isSeparate := o.has 's' || inPlace.isSome
      inPlace
      ending := if o.has 'z' then '\x00' else '\n'
      width := ((o.value? 'l').bind natural?).getD 70
      isPosix := o.has 'π' }
    let sinks ← openSinks c (writtenPaths script)
    let output : Sink := { path := mainPath, descriptor := if inPlace.isSome then none else some 1 }
    let start : State := {
      ranges := script.instructions.map fun i =>
        if i.condition.first = some (.line 0) then some 0 else none
      sinks := output :: sinks
      files := if operands.isEmpty then ["-"] else operands }
    let (status, s) ← (cycles k Program.unbounded false).run start
    let ((), _) ← (flushAll k).run s
    return status

end BindingCoverage.Host.Utility
