import SourceLint.Config.Initial

/-!
# Command line arguments

The arguments name a task: check a tree, list the rules, list the known
symbols, or make a config file. Flags for logging may stand before or after
the task. An option has its value behind an equals sign or as the next
argument; behind `--` there are no options any more. Help can be asked for
before the task, behind it, or as a subcommand of its own.

Arguments are read from left to right. The first one that is wrong, or that
asks for help or for the version, ends the reading.

* `Task`, `Request` — what is asked for;
* `UsageError` — why arguments ask for nothing;
* `Request.parse` — what the arguments ask for.
-/

namespace SourceLint.Command

/-- A task. -/
inductive Task where
  | check (path : Path) (rule : Option String) (config : Path)
  | listRules
  | symbols (header : Option String)
  | init
deriving DecidableEq, Repr

/-- What the first argument that is no flag can name. -/
inductive Subcommand where
  | check
  | listRules
  | symbols
  | init
  | help
deriving DecidableEq, Repr

/-- The subcommand of that name. -/
def Subcommand.ofName? : String → Option Subcommand
  | "check" => some .check
  | "list-rules" => some .listRules
  | "symbols" => some .symbols
  | "init" => some .init
  | "help" => some .help
  | _ => none

/-- The flags for logging. -/
structure Flags where
  debug : Bool := false
  verbose : Bool := false
deriving DecidableEq, Repr

/-- What the arguments ask for. -/
inductive Request where
  | version
  /-- Help on a subcommand, or on the program. -/
  | help (topic : Option Subcommand)
  | run (flags : Flags) (task : Task)
deriving DecidableEq, Repr

/-- Why arguments ask for nothing. -/
inductive UsageError where
  | noTask
  | unknownTask (name : String)
  | unexpected (argument : String)
  | repeated (option : String)
  | noValue (option : String)
deriving DecidableEq, Repr

/-- An error of use in words. -/
def UsageError.message : UsageError → String
  | .noTask => "a command is required: check, list-rules, symbols or init"
  | .unknownTask name => "unrecognized command '" ++ name ++ "'"
  | .unexpected argument => "unexpected argument '" ++ argument ++ "'"
  | .repeated option => "the argument '" ++ option ++ "' cannot be used multiple times"
  | .noValue option => "a value is required for '" ++ option ++ "'"

/-- Why the reading of arguments ends before the last one. -/
inductive Stop where
  | refused (e : UsageError)
  | version
  | help (topic : Option Subcommand)
deriving DecidableEq, Repr

/-- What arguments ask for whose reading ends early. -/
def Stop.request : Stop → Except UsageError Request
  | .refused e => .error e
  | .version => .ok .version
  | .help topic => .ok (.help topic)

-- ---------------------------------------------------------------------------
-- Flags
-- ---------------------------------------------------------------------------

/-- An argument without a value. -/
inductive Switch where
  | debug
  | verbose
  | version
  | help
deriving DecidableEq, Repr

namespace Switch

/-- The switch that a letter behind a single dash stands for. -/
def ofLetter? : Char → Option Switch
  | 'd' => some .debug
  | 'v' => some .verbose
  | 'V' => some .version
  | 'h' => some .help
  | _ => none

/-- The switch of that name. -/
def ofName? : String → Option Switch
  | "debug" => some .debug
  | "verbose" => some .verbose
  | "version" => some .version
  | "help" => some .help
  | _ => none

end Switch

namespace Flags

/-- The flags after a switch that stands behind the subcommand, or in front of
it. A flag must be new, and the version can only be asked for in front. -/
def turn (f : Flags) (behind : Option Subcommand) (argument : String) : Switch → Except Stop Flags
  | .debug =>
    if f.debug then .error (.refused (.repeated "--debug")) else .ok { f with debug := true }
  | .verbose =>
    if f.verbose then .error (.refused (.repeated "--verbose")) else .ok { f with verbose := true }
  | .version => .error (if behind.isNone then .version else .refused (.unexpected argument))
  | .help => .error (.help behind)

/-- The flags after the letters behind a single dash. -/
def turnAll (behind : Option Subcommand) (argument : String) :
    Flags → List Char → Except Stop Flags
  | f, [] => .ok f
  | f, c :: cs => match Switch.ofLetter? c with
    | some s => do turnAll behind argument (← f.turn behind argument s) cs
    | none => .error (.refused (.unexpected argument))

/-- Flags before the task and flags after it count alike. -/
def merge (f g : Flags) : Flags :=
  ⟨f.debug || g.debug, f.verbose || g.verbose⟩

end Flags

-- ---------------------------------------------------------------------------
-- Options
-- ---------------------------------------------------------------------------

/-- How an argument reads before its meaning is known. -/
inductive Shape where
  /-- A name behind two dashes, and what stands behind an equals sign. -/
  | long (name : String) (value : Option String)
  /-- Letters behind one dash. -/
  | short (letters : List Char)
  /-- Two dashes alone. -/
  | divider
  /-- Anything else, a single dash included. -/
  | plain
deriving DecidableEq, Repr

/-- The shape of an argument. -/
def Shape.of (argument : String) : Shape :=
  match argument.toList with
  | ['-', '-'] => .divider
  | '-' :: '-' :: cs =>
    let name := String.ofList (cs.takeWhile (· ≠ '='))
    match cs.dropWhile (· ≠ '=') with
    | [] => .long name none
    | _ :: value => .long name (some (String.ofList value))
  | '-' :: c :: cs => .short (c :: cs)
  | _ => .plain

/-- What a subcommand takes. A path is never empty, other values may be. -/
structure Takes where
  options : List String := []
  paths : List String := []
  /-- The name of the one argument without an option, which is a path. -/
  plain : Option String := none

/-- What the arguments behind a subcommand give. -/
structure Given where
  flags : Flags := {}
  /-- The options with their values. -/
  values : List (String × String) := []
  /-- The argument that belongs to no option. -/
  plain : Option String := none

namespace Given

/-- One more option with its value. -/
def addValue (g : Given) (takes : Takes) (name value : String) : Except Stop Given :=
  if (g.values.lookup name).isSome then .error (.refused (.repeated ("--" ++ name)))
  else if name ∈ takes.paths ∧ value = "" then .error (.refused (.noValue ("--" ++ name)))
  else .ok { g with values := (name, value) :: g.values }

/-- One more argument that belongs to no option. -/
def addPlain (g : Given) (takes : Takes) (argument : String) : Except Stop Given :=
  match takes.plain, g.plain with
  | some name, none =>
    if argument = "" then .error (.refused (.noValue name))
    else .ok { g with plain := some argument }
  | _, _ => .error (.refused (.unexpected argument))

end Given

/-- Reads the arguments behind a subcommand. -/
def readGiven (behind : Subcommand) (takes : Takes) : Given → List String → Except Stop Given
  | g, [] => .ok g
  | g, a :: rest => match Shape.of a with
    | .divider => rest.foldlM (·.addPlain takes ·) g
    | .plain => do readGiven behind takes (← g.addPlain takes a) rest
    | .short letters => do
      let flags ← g.flags.turnAll (some behind) a letters
      readGiven behind takes { g with flags } rest
    | .long name value =>
      if name ∈ takes.options ++ takes.paths then match value, rest with
        | some value, rest => do
          readGiven behind takes (← g.addValue takes name value) rest
        | none, value :: rest =>
          if Shape.of value = .plain then do
            readGiven behind takes (← g.addValue takes name value) rest
          else .error (.refused (.noValue a))
        | none, [] => .error (.refused (.noValue a))
      else match Switch.ofName? name, value with
        | some s, none => do
          let flags ← g.flags.turn (some behind) a s
          readGiven behind takes { g with flags } rest
        | _, _ => .error (.refused (.unexpected a))

-- ---------------------------------------------------------------------------
-- Requests
-- ---------------------------------------------------------------------------

namespace Subcommand

/-- What help is asked on by the arguments behind `help`. -/
def readTopic : List String → Stop
  | [] => .help none
  | name :: rest => match ofName? name, rest with
    | none, _ => .refused (.unknownTask name)
    | some c, [] => .help (some c)
    | some _, other :: _ => .refused (.unknownTask other)

/-- The task with the arguments behind it, and the flags among these. -/
def read (arguments : List String) : Subcommand → Except Stop (Flags × Task)
  | .check => do
    let g ← readGiven .check ⟨["rule"], ["config"], some "PATH"⟩ {} arguments
    let config := (g.values.lookup "config").getD Config.fileName
    .ok (g.flags, .check ⟨g.plain.getD "."⟩ (g.values.lookup "rule") ⟨config⟩)
  | .listRules => do
    let g ← readGiven .listRules {} {} arguments
    .ok (g.flags, .listRules)
  | .symbols => do
    let g ← readGiven .symbols { options := ["header"] } {} arguments
    .ok (g.flags, .symbols (g.values.lookup "header"))
  | .init => do
    let g ← readGiven .init {} {} arguments
    .ok (g.flags, .init)
  | .help => .error (readTopic arguments)

end Subcommand

namespace Request

/-- Reads the arguments from the flags before the task on. -/
def parseFrom : Flags → List String → Except Stop (Flags × Task)
  | _, [] => .error (.refused .noTask)
  | f, a :: rest => match Shape.of a with
    | .plain => match Subcommand.ofName? a with
      | none => .error (.refused (.unknownTask a))
      | some c => do
        let (flags, task) ← c.read rest
        .ok (f.merge flags, task)
    | .short letters => do parseFrom (← f.turnAll none a letters) rest
    | .long name none => match Switch.ofName? name with
      | some s => do parseFrom (← f.turn none a s) rest
      | none => .error (.refused (.unexpected a))
    | .long _ _ => .error (.refused (.unexpected a))
    | .divider => .error (.refused .noTask)

/-- What the arguments ask for. -/
def parse (arguments : List String) : Except UsageError Request :=
  match parseFrom {} arguments with
  | .ok (flags, task) => .ok (.run flags task)
  | .error stop => stop.request

end Request

end SourceLint.Command
