import BindingCoverage.Host.Shell.Expansion

/-!
# Redirections

A redirection opens a file, or copies or closes a descriptor. While a command is carried out, the
descriptors that were there before are kept at high numbers, which no program gets to see.
-/

namespace BindingCoverage.Host.Shell

/-- A descriptor and where it is kept, if it was open at all. -/
structure Kept where
  descriptor : Nat
  copy : Option Nat
  deriving DecidableEq, Repr

namespace Script

/-- The least number under which a descriptor is kept. -/
def leastKept : Nat := 10

/-- How a missing file is spoken of. -/
inductive Attempt where
  | opening
  | creating
  | executing
  deriving DecidableEq, Repr

def errorText (attempt : Attempt) (e : SystemError) : String :=
  if e = .notFound || e = .notADirectory then
    match attempt with
    | .opening => "No such file"
    | .creating => "Directory nonexistent"
    | .executing => "not found"
  else
    match e with
    | .number n => SystemError.numberText n
    | e => e.message

/-- A redirection whose words have been expanded. -/
inductive Prepared where
  | file (descriptor : Nat) (access : Access) (path : String)
  | copy (descriptor source : Nat)
  | close (descriptor : Nat)
  | document (descriptor : Nat) (number : Nat)

/-- Expands the words of a redirection. -/
def prepare (run : Runner) : Redirect → Script Prepared
  | .file d access target => do return .file d access (← text run target)
  | .document d number => return .document d number
  | .copy d source => do
    let s ← text run source
    match s.toList with
    | ['-'] => return .close d
    | [c] => if c.isDigit then return .copy d (c.toNat - '0'.toNat) else bad
    | _ => bad
where
  bad : Script Prepared := fail "Syntax error: Bad fd number"

def opening : Access → Opening
  | .read => { reads := true }
  | .write | .overwrite => { writes := true, creates := true, empties := true }
  | .append => { writes := true, creates := true, appends := true }
  | .readAndWrite => { reads := true, writes := true, creates := true }

/-- Whether a file is there that is not to be overwritten. -/
def isProtected (access : Access) (path : String) : Script Bool := do
  if access ≠ .write || !(← get).hasOption 'C' then return false
  match (← ask .files).node (Octets.text path) with
  | .ok (.file _ _) => return true
  | _ => return false

/-- A pipe from which a text can be read. -/
def pipeWith (s : String) : Script Nat := do
  let (reading, writing) ← ask .pipe
  if s.length ≤ Program.blockSize then
    discard (lift (Program.write writing s))
  else
    discard (fork do
      discard (ask (.close reading))
      discard (lift (Program.write writing s))
      return 0)
  discard (ask (.close writing))
  return reading

/-- Opens what a redirection leads to. There is nothing to do for a descriptor that becomes a copy
of itself. -/
def openTarget (run : Runner) : Prepared → Script (Option Nat)
  | .file _ access path => do
    if ← isProtected access path then
      fail s!"cannot create {path}: {errorText .creating .alreadyThere}"
    match ← ask (.openFile path (opening access)) with
    | .ok d => return some d
    | .error e =>
      if access = .read then fail s!"cannot open {path}: {errorText .opening e}"
      else fail s!"cannot create {path}: {errorText .creating e}"
  | .document _ number => do
    let word := (((← get).documents.find? (·.1 == number)).map (·.2)).getD []
    return some (← pipeWith (← documentText run word))
  | .copy _ source => return some source
  | .close _ => return none

def Prepared.descriptor : Prepared → Nat
  | .file d _ _ | .copy d _ | .close d | .document d _ => d

/-- Keeps a descriptor, which is closed then. -/
def keep (descriptor : Nat) : Script Kept := do
  match ← ask (.duplicate descriptor leastKept true) with
  | .ok copy => do
    discard (ask (.close descriptor))
    return ⟨descriptor, some copy⟩
  | .error _ => return ⟨descriptor, none⟩

/-- Puts back the descriptors that were kept, the last one first. -/
def putBack : List Kept → Script Unit
  | [] => return
  | k :: rest => do
    match k.copy with
    | some copy => do
      discard (ask (.assign copy k.descriptor))
      discard (ask (.close copy))
    | none => discard (ask (.close k.descriptor))
    putBack rest

/-- Closes the copies of the descriptors that were kept. -/
def letGo (kept : List Kept) : Script Unit :=
  kept.forM fun k =>
    match k.copy with
    | some copy => discard (ask (.close copy))
    | none => pure ()

/-- Makes a descriptor lead to what was opened for it. -/
def lead (p : Prepared) (target : Option Nat) : Script Unit := do
  let d := p.descriptor
  match p, target with
  | .copy _ source, _ =>
    match ← ask (.assign source d) with
    | .ok () => return
    | .error e => fail s!"{source}: {errorText .executing e}"
  | _, some target =>
    if target ≠ d then
      discard (ask (.assign target d))
      discard (ask (.close target))
  | _, none => discard (ask (.close d))

/-- Does one redirection after the other. What is kept is added to the list that is given, also if
a redirection fails. -/
def redirectEach (run : Runner) (keeps : Bool) : List Prepared → List Kept →
    Script (Except Stop Unit × List Kept)
  | [], kept => return (.ok (), kept)
  | p :: rest, kept => do
    let d := p.descriptor
    let isSame := match p with
      | .copy _ source => source == d
      | _ => false
    if isSame then redirectEach run keeps rest kept
    else
      let target ← try (do return Except.ok (← openTarget run p)) catch stop => pure (.error stop)
      match target with
      | .error stop => return (.error stop, kept)
      | .ok target => do
        let isKept := kept.any (·.descriptor == d)
        let kept ←
          if keeps && !isKept && target != some d then do pure ((← keep d) :: kept)
          else if keeps && !isKept then pure (⟨d, none⟩ :: kept)
          else pure kept
        let led ← try (do lead p target; return Except.ok ()) catch stop => pure (.error stop)
        match led with
        | .error stop => return (.error stop, kept)
        | .ok () => redirectEach run keeps rest kept

/-- Carries out an action with redirections, which are undone afterwards. The action is given a
descriptor that leads to where messages went before. There is no result if a redirection fails. -/
def withRedirects {α : Type} (run : Runner) (rs : List Redirect) (action : Nat → Script α) :
    Script (Option α) := do
  if rs.isEmpty then return some (← action 2)
  let prepared ← rs.mapM (prepare run)
  let (result, kept) ← redirectEach run true prepared []
  match result with
  | .error .failure => do
    putBack kept
    return none
  | .error stop => do
    putBack kept
    throw stop
  | .ok () =>
    let messages := ((kept.find? (·.descriptor == 2)).bind (·.copy)).getD 2
    try
      let a ← action messages
      putBack kept
      return some a
    catch stop =>
      putBack kept
      throw stop

/-- Does redirections for good; tells whether all of them could be done. -/
def redirectForGood (run : Runner) (rs : List Redirect) : Script Bool := do
  let prepared ← rs.mapM (prepare run)
  let (result, kept) ← redirectEach run true prepared []
  match result with
  | .ok () => do
    letGo kept
    return true
  | .error .failure => do
    putBack kept
    return false
  | .error stop => do
    putBack kept
    throw stop

/-- Does redirections in a process that has nothing else to do. -/
def redirectOnce (run : Runner) (rs : List Redirect) : Script Unit := do
  let prepared ← rs.mapM (prepare run)
  match ← redirectEach run false prepared [] with
  | (.ok (), _) => return
  | (.error stop, _) => throw stop

end Script

end BindingCoverage.Host.Shell
