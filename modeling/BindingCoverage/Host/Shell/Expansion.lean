import BindingCoverage.Host.Shell.Arithmetic
import BindingCoverage.Host.Shell.Fields
import BindingCoverage.Host.Shell.Source
import BindingCoverage.Text.Octets
import BindingCoverage.Text.Sorted

/-!
# Expansion

What words stand for. The parts of a word are expanded to pieces, the pieces are split into fields,
and a field that is a pattern gives the names of the files that match it, if there are any.

Commands inside words are carried out by a child, with the runner that is given to all functions
here.
-/

namespace BindingCoverage.Host.Shell

/-- How parts are expanded. -/
structure Manner where
  /-- Whether they are quoted. -/
  isQuoted : Bool := false
  /-- Whether the pieces are to be split into fields. -/
  isSplit : Bool := false
  /-- Whether they are the operand of a parameter, where plain text is split too. -/
  isOperand : Bool := false
  /-- Whether a tilde at the start stands for a directory. -/
  hasTilde : Bool := false
  /-- Whether they are assigned, so that a tilde after a colon does so too. -/
  isAssigned : Bool := false

namespace Script

/-! ## Commands -/

/-- The output of a command without the line ends at its end. -/
def withoutLineEnds (s : String) : String :=
  String.ofList (((s.toList.filter (· != '\x00')).reverse.dropWhile (· == '\n')).reverse)

/-- The output of a command. -/
def substitute (run : Runner) (c : Command) : Script String := do
  if c.isNothing then return ""
  let (reading, writing) ← ask .pipe
  let child ← forkShell run do
    discard (ask (.close reading))
    if writing ≠ 1 then
      discard (ask (.assign writing 1))
      discard (ask (.close writing))
    run { isLast := true } c
  discard (ask (.close writing))
  let output ← lift (Program.readAll reading)
  discard (ask (.close reading))
  let status ← waitFor [child]
  modify fun s => { s with substituted := status }
  return withoutLineEnds (output.toOption.getD "")

/-! ## Tildes -/

/-- The directory of a user. -/
def homeOf? (user : String) : Script (Option String) := do
  if user.isEmpty then return (← get).value? "HOME"
  else return if user = "root" then some "/root" else none

def plainPiece (m : Manner) (text : List Char) : List Piece :=
  if text.isEmpty then []
  else if m.isOperand then [.value (String.ofList text)]
  else [.plain (String.ofList text)]

/-- The pieces of text that may begin with a tilde. The name of a user ends with the text only if
the word goes no further. -/
def afterTilde (m : Manner) (isWhole : Bool) (text : List Char) : Script (List Piece) := do
  match text with
  | '~' :: rest =>
    let user := rest.takeWhile (· != '/')
    let after := rest.drop user.length
    if after.isEmpty && !isWhole then return plainPiece m text
    else
      match ← homeOf? (String.ofList user) with
      | some home => return .literal home :: plainPiece m after
      | none => return plainPiece m text
  | text => return plainPiece m text

/-- The pieces of text in which tildes may also come after colons. -/
def betweenColons (m : Manner) (isLast : Bool) : Nat → Bool → List Char → Script (List Piece)
  | 0, _, _ => return []
  | fuel + 1, mayBegin, text => do
    let first := text.takeWhile (· != ':')
    let rest := text.drop first.length
    let here ←
      if mayBegin then afterTilde m (isLast || !rest.isEmpty) first
      else pure (plainPiece m first)
    if rest.isEmpty then return here
    else return here ++ .plain ":" :: (← betweenColons m isLast fuel true (rest.drop 1))

/-- The pieces of plain text. -/
def plainPieces (m : Manner) (isFirst isLast : Bool) (text : String) : Script (List Piece) := do
  let mayBegin := isFirst && m.hasTilde
  if m.isQuoted then return [.literal text]
  else if m.isAssigned then betweenColons m isLast (text.length + 1) mayBegin text.toList
  else if mayBegin then afterTilde m isLast text.toList
  else return plainPiece m text.toList

/-! ## Parameters -/

/-- Whether a name stands for all parameters. -/
def isAll (name : String) : Bool := name == "@" || name == "*"

/-- The parameters in one text. -/
def joinedParameters (s : State) : String :=
  let separator :=
    match s.value? "IFS" with
    | none => " "
    | some separators => String.ofList (separators.toList.take 1)
  separator.intercalate s.parameters

/-- The value of a parameter. -/
def valueOf? (s : State) (name : String) : Option String :=
  if isAll name then some (joinedParameters s)
  else
    match name.toList with
    | [c] =>
      if isSpecial c then s.special? c
      else if c.isDigit then s.positional? (c.toNat - '0'.toNat)
      else s.value? name
    | c :: _ => if c.isDigit then (natural? name).bind s.positional? else s.value? name
    | [] => none

/-- The pieces of a value. -/
def valuePieces (m : Manner) (value : String) : List Piece :=
  if m.isQuoted then [.literal value] else [.value value]

/-- The pieces of a parameter with a value. -/
def parameterPieces (m : Manner) (s : State) (name value : String) : List Piece :=
  if !isAll name || !m.isSplit then valuePieces m value
  else if m.isQuoted then
    if name = "@" then (if s.parameters.isEmpty then [] else [.parameters s.parameters])
    else [.literal value]
  else if (s.value? "IFS").isNone then [.value value]
  else [.values s.parameters]

def unset {α : Type} (name : String) : Script α := fail s!"{name}: parameter not set"

/-- The value of a parameter that has to have one if that was asked for. -/
def demanded (name : String) : Script String := do
  let s ← get
  match valueOf? s name with
  | some value => return value
  | none => if s.hasOption 'u' then unset name else return ""

/-- Sets a variable to which an expression or an expansion assigns. -/
def assignParameter (name value : String) : Script Unit := do
  if isName name then assign name value false else fail s!"{name}: bad variable name"

/-- The value of an arithmetic expression. -/
def calculate (text : String) : Script String := do
  let s ← get
  let known : Arithmetic.Variables := {
    value? := s.value?
    isReadOnly := fun name => (s.binding? name).any (·.isReadOnly) }
  match Arithmetic.evaluate known text.toList with
  | .ok (n, assigned) => do
    assigned.forM fun (name, value) => assign name value false
    return toString n
  | .error (.expression cause) => fail s!"arithmetic expression: {cause}: \"{text}\""
  | .error (.badNumber number) => fail s!"Illegal number: {number}"
  | .error (.readOnly name) => fail s!"{name}: is read only"

/-! ## Parts -/

mutual

/-- The pieces of parts, of which the first may be the first of a word. -/
def pieces (run : Runner) (m : Manner) (isFirst : Bool) : List Part → Script (List Piece)
  | [] => return []
  | p :: rest => do
    let here ← piecesOf run m isFirst rest.isEmpty p
    return here ++ (← pieces run m false rest)

def piecesOf (run : Runner) (m : Manner) (isFirst isLast : Bool) : Part → Script (List Piece)
  | .plain text => plainPieces m isFirst isLast text
  | .literal text => return [.literal text]
  | .quoted inner => do
    let inQuotes : Manner := { m with isQuoted := true, hasTilde := false, isAssigned := false }
    match inner with
    | [.parameter "@" .value _ _] =>
      pieces run inQuotes false inner
    | _ => return .literal "" :: (← pieces run inQuotes false inner)
  | .substitution c => do return valuePieces m (← substitute run c)
  | .arithmetic expression => do
    let inside ← pieces run { isQuoted := true } false expression
    return valuePieces m (← calculate (textOf inside))
  | .parameter name operator colon operand => do
    let s ← get
    let value := valueOf? s name
    let isUnset := value.isNone || (colon && value = some "")
    let word : Manner := { m with isOperand := true, hasTilde := true, isAssigned := false }
    let single : Manner := { isQuoted := m.isQuoted, hasTilde := true }
    match operator with
    | .unknown => fail "Bad substitution"
    | .value => do
      let value ← demanded name
      return parameterPieces m s name value
    | .length => do
      let value ← demanded name
      return valuePieces m (toString value.length)
    | .otherwise =>
      if isUnset then pieces run word true operand
      else return parameterPieces m s name (value.getD "")
    | .instead => if isUnset then return [] else pieces run word true operand
    | .supply =>
      if isUnset then do
        let value := textOf (← pieces run single true operand)
        assignParameter name value
        return valuePieces m value
      else return parameterPieces m s name (value.getD "")
    | .demand =>
      if isUnset then
        if operand.isEmpty then
          fail (s!"{name}: parameter not set" ++ (if colon then " or null" else ""))
        else do
          let text := textOf (← pieces run single true operand)
          fail s!"{name}: {text}"
      else return parameterPieces m s name (value.getD "")
    | .dropStart longest => do
      let value ← demanded name
      let pattern := cellsOf (← pieces run { hasTilde := true } true operand)
      return valuePieces m (String.ofList (Pattern.dropStart longest pattern value.toList))
    | .dropEnd longest => do
      let value ← demanded name
      let pattern := cellsOf (← pieces run { hasTilde := true } true operand)
      return valuePieces m (String.ofList (Pattern.dropEnd longest pattern value.toList))

end

/-! ## Names of files -/

/-- The parts of a pattern between slashes. -/
def betweenSlashes (current : List Cell) : List Cell → List (List Cell)
  | [] => [current.reverse]
  | c :: rest =>
    if c.char = '/' then current.reverse :: betweenSlashes [] rest
    else betweenSlashes (c :: current) rest

/-- The text that a name in a pattern stands for if it is no pattern. -/
def nameText (cells : List Cell) : String :=
  String.ofList ((Pattern.elements cells).filterMap fun
    | .char c => some c
    | _ => none)

/-- The paths that begin with a text, and go on with names that match. -/
def pathsFrom (files : Files) (start : String) : List (List Cell) → List String
  | [] => [start]
  | [name] =>
    if Pattern.isActive name then (matching start name).map (start ++ ·)
    else
      let path := start ++ nameText name
      if (files.node (Octets.text (if path.isEmpty then "." else path))).isOk then [path] else []
  | name :: rest =>
    if Pattern.isActive name then
      ((matching start name).filter fun n => isDirectory (start ++ n)).flatMap fun n =>
        pathsFrom files (start ++ n ++ "/") rest
    else pathsFrom files (start ++ nameText name ++ "/") rest
where
  /-- The names in a directory that match, in no order that means anything. -/
  matching (start : String) (name : List Cell) : List String :=
    match files.resolve (Octets.text (if start.isEmpty then "." else start)) with
    | .error _ => []
    | .ok directory =>
      let elements := Pattern.elements name
      let showsHidden := (name.head?.map (·.char)) == some '.'
      let names := (files.namesIn directory).map Octets.ofText ++
        (if showsHidden then [".", ".."] else [])
      names.filter fun n =>
        (showsHidden || n.toList.head? != some '.') && Pattern.matchesAll elements n.toList
  isDirectory (path : String) : Bool :=
    match files.node (Octets.text path) with
    | .ok .directory => true
    | _ => false

/-- The names that a field stands for. -/
def namesOf (field : List Cell) : Script (List String) := do
  if (← get).hasOption 'f' || !Pattern.isActive field then return [textOfCells field]
  else
    let files ← ask .files
    let found := pathsFrom files "" (betweenSlashes [] field)
    return if found.isEmpty then [textOfCells field] else Text.Sorted.unique found

/-! ## Words -/

/-- The fields of a word. -/
def fields (run : Runner) (w : Word) : Script (List String) := do
  let all ← pieces run { isSplit := true, hasTilde := true } true w
  let split := fieldsOf (← get).separators all
  return (← split.mapM namesOf).flatten

def allFields (run : Runner) (ws : List Word) : Script (List String) := do
  return (← ws.mapM (fields run)).flatten

/-- The text of a word that is one field. -/
def text (run : Runner) (w : Word) : Script String := do
  return textOf (← pieces run { hasTilde := true } true w)

/-- The pattern of a word. -/
def pattern (run : Runner) (w : Word) : Script (List Cell) := do
  return cellsOf (← pieces run { hasTilde := true } true w)

/-- The value of a word that is assigned. -/
def assignedText (run : Runner) (w : Word) : Script String := do
  return textOf (← pieces run { hasTilde := true, isAssigned := true } true w)

/-- The text of a here-document. -/
def documentText (run : Runner) (w : Word) : Script String := do
  return textOf (← pieces run { isQuoted := true } false w)

end Script

end BindingCoverage.Host.Shell
