/-! The arguments of the command line. Options may stand anywhere behind the command that has
them; a value follows its option or is written to it.
-/

namespace Spreadsheet.Command

/-- What an option takes: nothing, some text, or some text that is not empty. -/
inductive OptionKind where
  | switch
  | text
  | path
deriving DecidableEq, Repr

structure OptionSpec where
  name : String
  letter : Option Char
  kind : OptionKind
deriving DecidableEq, Repr

/-- Where options are read: those that are known, and whether the version can be asked for. -/
structure Level where
  options : List OptionSpec
  hasVersion : Bool
deriving DecidableEq, Repr

/-- Why reading ends before the end of the arguments. -/
inductive Stop where
  | help
  | version
  | misuse
deriving DecidableEq, Repr

/-- The options read so far with their values, and the other arguments. -/
structure Reading where
  given : List (String × String) := []
  free : List String := []
  /-- The last option was given before, which comes out only when the next one is looked at. -/
  isRepeated : Bool := false
deriving DecidableEq, Repr

namespace Reading

/-- The value of an option. -/
def value? (r : Reading) (name : String) : Option String := r.given.lookup name

/-- Takes the value of an option, which may be given only once. -/
def give (r : Reading) (spec : OptionSpec) (value : String) : Except Stop Reading :=
  if (r.value? spec.name).isSome || (spec.kind == .path && value.isEmpty) then .error .misuse
  else .ok { r with given := (spec.name, value) :: r.given }

/-- Takes the value that stands behind an option. -/
def giveNext (r : Reading) (spec : OptionSpec) (value : String) : Except Stop Reading :=
  if (r.value? spec.name).isSome then .ok { r with isRepeated := true } else r.give spec value

/-- The reading unless an option was given twice. -/
def settled (r : Reading) : Except Stop Reading := if r.isRepeated then .error .misuse else .ok r

end Reading

/-- An argument that stands for itself: no option, or a single dash. -/
def isFree (argument : String) : Bool := argument == "-" || argument.toList.head? != some '-'

/-- The value that follows an option, and the arguments behind it. -/
def nextValue : List String → Except Stop (String × List String)
  | [] => .error .misuse
  | value :: rest => if isFree value then .ok (value, rest) else .error .misuse

/-- Reads an option by its name, given the value that is written to it. -/
def readLong (level : Level) (name : String) (attached : Option String) (r : Reading)
    (rest : List String) : Except Stop (Reading × List String) :=
  match level.options.find? (·.name == name), attached with
  | some spec, some value =>
    if spec.kind = .switch then .error .misuse else (r.give spec value).map (·, rest)
  | some spec, none => do
    if spec.kind = .switch then
      let r ← r.give spec ""
      return (r, rest)
    else
      let (value, rest) ← nextValue rest
      let r ← r.giveNext spec value
      return (r, rest)
  | none, some _ => .error .misuse
  | none, none =>
    .error (if name = "help" then .help
      else if name = "version" && level.hasVersion then .version
      else .misuse)

/-- Reads options by their letters. One that takes a value takes what follows it, without an
equals sign in front, or the next argument. -/
def readLetters (level : Level) : List Char → Reading → List String
    → Except Stop (Reading × List String)
  | [], r, rest => .ok (r, rest)
  | c :: letters, r, rest =>
    match level.options.find? (·.letter == some c) with
    | some spec =>
      if spec.kind = .switch then do
        let r ← r.give spec ""
        readLetters level letters r rest
      else
        match letters with
        | [] => do
          let (value, rest) ← nextValue rest
          let r ← r.giveNext spec value
          return (r, rest)
        | '=' :: value => (r.give spec (String.ofList value)).map (·, rest)
        | value => (r.give spec (String.ofList value)).map (·, rest)
    | none =>
      .error (if c = 'h' then .help
        else if c = 'V' && level.hasVersion then .version
        else .misuse)

/-- Reads one argument that starts with a dash. -/
def readOption (level : Level) (argument : String) (r : Reading) (rest : List String)
    : Except Stop (Reading × List String) := do
  let r ← r.settled
  match argument.toList with
  | '-' :: '-' :: long =>
    let name := String.ofList (long.takeWhile (· != '='))
    match long.dropWhile (· != '=') with
    | [] => readLong level name none r rest
    | _ :: value => readLong level name (some (String.ofList value)) r rest
  | _ :: letters => readLetters level letters r rest
  | [] => .error .misuse

/-- Reads arguments up to the end. A command takes one free argument, which is a path; behind
two dashes all arguments are free. -/
def readAll (level : Level) : Nat → List String → Reading → Except Stop Reading
  | _, [], r => r.settled
  | 0, _, _ => .error .misuse
  | fuel + 1, argument :: rest, r =>
    if argument = "--" then do
      let r ← r.settled
      rest.foldlM takeFree r
    else if isFree argument then do
      let r ← takeFree r argument
      readAll level fuel rest r
    else do
      let (r, rest) ← readOption level argument r rest
      readAll level fuel rest r
where
  takeFree (r : Reading) (argument : String) : Except Stop Reading :=
    if argument.isEmpty || !r.free.isEmpty then .error .misuse
    else .ok { r with free := [argument] }

/-- Reads options up to the first free argument, and gives that and what is behind it. -/
def readBefore (level : Level) : Nat → List String → Reading
    → Except Stop (Reading × String × List String)
  | _, [], _ => .error .misuse
  | 0, _, _ => .error .misuse
  | fuel + 1, argument :: rest, r =>
    if argument = "--" then .error .misuse
    else if isFree argument then .ok (r, argument, rest)
    else do
      let (r, rest) ← readOption level argument r rest
      readBefore level fuel rest r

/-- What is to be done with the request in a file. -/
inductive Task where
  | generate (input : String) (directory storage : Option String)
  | validate (input : String) (draft : Bool)
deriving DecidableEq, Repr

structure Call where
  logLevel : Option String
  task : Task
deriving DecidableEq, Repr

def logLevelOption : OptionSpec := ⟨"log-level", none, .text⟩

def topLevel : Level := ⟨[logLevelOption], true⟩

def generateLevel : Level :=
  ⟨[logLevelOption, ⟨"output-dir", some 'o', .path⟩, ⟨"storage", some 's', .text⟩], false⟩

def validateLevel : Level := ⟨[logLevelOption, ⟨"partial", some 'p', .switch⟩], false⟩

/-- The names of all commands. -/
def commands : List String := ["generate", "validate", "help"]

/-- The only free argument of a command. -/
def input (r : Reading) : Except Stop String :=
  match r.free with
  | [input] => .ok input
  | _ => .error .misuse

/-- The task of a command with its arguments, and the log level among them. -/
def readTask (command : String) (arguments : List String)
    : Except Stop (Task × Option String) :=
  match command with
  | "generate" => do
    let r ← readAll generateLevel arguments.length arguments {}
    let input ← input r
    return (.generate input (r.value? "output-dir") (r.value? "storage"), r.value? "log-level")
  | "validate" => do
    let r ← readAll validateLevel arguments.length arguments {}
    let input ← input r
    return (.validate input (r.value? "partial").isSome, r.value? "log-level")
  | "help" =>
    match arguments with
    | [] => .error .help
    | [command] => .error (if commands.contains command then .help else .misuse)
    | _ => .error .misuse
  | _ => .error .misuse

/-- Reads the arguments of the program. The log level may stand before the command or among its
arguments, and the latter counts. A command that asks for help gets it whatever stands last before
it. -/
def Call.ofArguments (arguments : List String) : Except Stop Call := do
  let (r, command, rest) ← readBefore topLevel arguments.length arguments {}
  let (task, level) ← readTask command rest
  let r ← r.settled
  return ⟨level.or (r.value? "log-level"), task⟩

end Spreadsheet.Command
