import BindingCoverage.Settings.File
import BindingCoverage.Text.Decimal

/-!
# Arguments

The command line is a command with flags and options. A flag stands alone, an option has a value,
in the next argument or after an equals sign, and each is given at most once. A value in an
argument of its own does not begin with a hyphen, unless it is a single one. Arguments are read
from left to right, and the first one at fault is reported.
-/

namespace BindingCoverage.CommandLine

/-- What a binding is compared with, and where its symbols are listed. -/
structure CheckRequest where
  library : String
  implemented : String
  /-- A saved dump, which is read instead of running the extractor. -/
  dump : Option String := none
  options : Settings.Options := {}
  deriving DecidableEq, Repr

inductive Command where
  | libraries (json : Bool)
  | stub (library : String)
  | extract (library : String) (options : Settings.Options) (json : Bool)
  | parse (file : String) (json : Bool)
  | check (request : CheckRequest) (failOnMissing json : Bool)
  deriving DecidableEq, Repr

inductive UsageError where
  | unexpected (arg : String)
  | repeated (name : String)
  | valueMissing (name : String)
  | valueUnexpected (name : String)
  | noNumber (name value : String)
  | required (name : String)
  | commandMissing
  | commandUnknown (name : String)
  deriving DecidableEq, Repr

def UsageError.message : UsageError → String
  | .unexpected arg => s!"unexpected argument '{arg}' found"
  | .repeated name => s!"the argument '--{name}' cannot be used multiple times"
  | .valueMissing name => s!"a value is required for '--{name}' but none was supplied"
  | .valueUnexpected name => s!"unexpected value for '--{name}' found; no more were expected"
  | .noNumber name value => s!"invalid value '{value}' for '--{name}'"
  | .required name => s!"the required argument '--{name}' was not provided"
  | .commandMissing => "a subcommand is required"
  | .commandUnknown name => s!"unrecognized subcommand '{name}'"

/-- What stops the reading of arguments. -/
inductive Stop where
  | help
  | version
  | usage (e : UsageError)
  deriving DecidableEq, Repr

/-! ## Flags and options -/

/-- The flags and options that a command has. -/
structure Grammar where
  flags : List String := []
  options : List String := []
  /-- Options whose value is a number. -/
  numbers : List String := []

/-- The flags and options that were given. -/
structure Given where
  flags : List String := []
  values : List (String × String) := []
  deriving DecidableEq, Repr

namespace Given

def hasFlag (g : Given) (name : String) : Bool := g.flags.contains name

def value? (g : Given) (name : String) : Option String :=
  (g.values.find? (·.1 == name)).map (·.2)

def required (g : Given) (name : String) : Except Stop String :=
  match g.value? name with
  | some value => .ok value
  | none => .error (.usage (.required name))

/-- The value of an option whose value is a number. -/
def number? (g : Given) (name : String) : Option UInt64 :=
  ((g.value? name).bind (Text.unsigned? 64)).map UInt64.ofNat

def raise (g : Given) (name : String) : Except Stop Given :=
  if g.hasFlag name then .error (.usage (.repeated name))
  else .ok { g with flags := name :: g.flags }

def set (grammar : Grammar) (g : Given) (name value : String) : Except Stop Given :=
  if (g.value? name).isSome then .error (.usage (.repeated name))
  else if grammar.numbers.contains name && (Text.unsigned? 64 value).isNone then
    .error (.usage (.noNumber name value))
  else .ok { g with values := (name, value) :: g.values }

end Given

/-- Every command has this flag. -/
def verboseFlag : String := "verbose"

/-- What an argument is. -/
inductive Shape where
  /-- The rest are words. -/
  | separator
  | long (name : String) (value : Option String)
  | short (letters : List Char)
  | word

def shapeOf (arg : String) : Shape :=
  match arg.toList with
  | ['-', '-'] => .separator
  | '-' :: '-' :: rest =>
    let name := rest.takeWhile (· != '=')
    if name.length < rest.length then
      .long (String.ofList name) (some (String.ofList (rest.drop (name.length + 1))))
    else .long (String.ofList name) none
  | '-' :: c :: rest => .short (c :: rest)
  | _ => .word

/-- Reads letters behind a hyphen; `top` says that they stand before the command. -/
def readLetters (top : Bool) (arg : String) (g : Given) : List Char → Except Stop Given
  | [] => .ok g
  | 'v' :: rest => do readLetters top arg (← g.raise verboseFlag) rest
  | 'h' :: _ => .error .help
  | 'V' :: _ => .error (if top then .version else .usage (.unexpected arg))
  | _ :: _ => .error (.usage (.unexpected arg))

/-- Reads the flags and options up to the first word; gives them with that word and what follows.
`pending` is an option whose value must come next. -/
def readGiven (top : Bool) (grammar : Grammar) (g : Given) (pending : Option String) :
    List String → Except Stop (Given × List String)
  | [] =>
    match pending with
    | none => .ok (g, [])
    | some name => .error (.usage (.valueMissing name))
  | arg :: rest =>
    match pending, shapeOf arg with
    | some name, .word => do readGiven top grammar (← g.set grammar name arg) none rest
    | some name, _ => .error (.usage (.valueMissing name))
    | none, .word => .ok (g, arg :: rest)
    | none, .separator =>
      match rest with
      | [] => .ok (g, [])
      | word :: _ => .error (.usage (.unexpected word))
    | none, .short letters => do
      readGiven top grammar (← readLetters top arg g letters) none rest
    | none, .long name value => do
      if name = "help" then
        throw (if value.isNone then .help else .usage (.valueUnexpected name))
      else if name = "version" && top then
        throw (if value.isNone then .version else .usage (.valueUnexpected name))
      else if name = verboseFlag || grammar.flags.contains name then
        if value.isSome then throw (.usage (.valueUnexpected name))
        readGiven top grammar (← g.raise name) none rest
      else if grammar.options.contains name then
        match value with
        | some value => readGiven top grammar (← g.set grammar name value) none rest
        | none =>
          if (g.value? name).isSome then throw (.usage (.repeated name))
          readGiven top grammar g (some name) rest
      else throw (.usage (.unexpected arg))

/-! ## Commands -/

def extractorOptions : List String := ["config", "castxml", "timeout-secs", "scratch-dir"]

def grammarOf? (command : String) : Option Grammar :=
  match command with
  | "libraries" => some { flags := ["json"] }
  | "stub" => some { options := ["library"] }
  | "extract" => some {
      flags := ["json"], options := "library" :: extractorOptions, numbers := ["timeout-secs"] }
  | "parse" => some { flags := ["json"], options := ["file"] }
  | "check" => some {
      flags := ["json", "fail-on-missing"]
      options := ["library", "implemented", "xml"] ++ extractorOptions
      numbers := ["timeout-secs"] }
  | _ => none

namespace Given

def options (g : Given) : Settings.Options where
  file := g.value? "config"
  extractor := g.value? "castxml"
  timeoutSecs := g.number? "timeout-secs"
  scratchDir := g.value? "scratch-dir"

/-- The command with a name. -/
def command (g : Given) (name : String) : Except Stop Command := do
  match name with
  | "libraries" => return .libraries (g.hasFlag "json")
  | "stub" => return .stub (← g.required "library")
  | "extract" => return .extract (← g.required "library") g.options (g.hasFlag "json")
  | "parse" => return .parse (← g.required "file") (g.hasFlag "json")
  | "check" =>
    let request : CheckRequest := {
      library := ← g.required "library"
      implemented := ← g.required "implemented"
      dump := g.value? "xml"
      options := g.options }
    return .check request (g.hasFlag "fail-on-missing") (g.hasFlag "json")
  | _ => throw (.usage (.commandUnknown name))

end Given

/-- The words after `help` name a command, if there are any. -/
def readHelp (words : List String) : Except Stop Command :=
  match words with
  | [] => .error .help
  | [word] =>
    if word = "help" || (grammarOf? word).isSome then .error .help
    else .error (.usage (.commandUnknown word))
  | _ :: word :: _ => .error (.usage (.commandUnknown word))

/-- Reads the arguments of the program. -/
def Command.ofArguments (args : List String) : Except Stop Command := do
  match ← readGiven true {} {} none args with
  | (_, []) => throw (.usage .commandMissing)
  | (_, "help" :: words) => readHelp words
  | (_, name :: rest) =>
    match grammarOf? name with
    | none => throw (.usage (.commandUnknown name))
    | some grammar =>
      match ← readGiven false grammar {} none rest with
      | (given, []) => given.command name
      | (_, word :: _) => throw (.usage (.unexpected word))

end BindingCoverage.CommandLine
