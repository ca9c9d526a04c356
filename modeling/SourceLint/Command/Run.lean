import SourceLint.Analysis.Remarks
import SourceLint.Command.Arguments
import SourceLint.Config.Decode

/-!
# Running a command

What a command prints, what it ends with, and what it changes, as a function
of the files it sees. The only change a command makes is that `init` creates a
config file where there is none.

* `Result` — all that can be seen of a run;
* `run` — the result of a request;
* `execute` — the result of a list of arguments, with the files afterwards.
-/

namespace SourceLint.Command

/-- What a command sees beside its arguments. -/
structure Surroundings where
  tree : FileTree
  /-- The directory in which the command runs. -/
  directory : Path
  /-- What the environment says on logging. -/
  logSetting : Option String := none

/-- All that can be seen of a run. -/
structure Result where
  exit : Nat
  stdout : String := ""
  stderr : String := ""
  remarks : List Log.Remark := []
  /-- A file that the run creates, with its text. -/
  created : Option (Path × String) := none

-- ---------------------------------------------------------------------------
-- Checking a tree
-- ---------------------------------------------------------------------------

/-- Why there are no settings. -/
inductive ConfigError where
  | unreadable (path : Path) (reason : String)
  | invalid (problem : Config.Problem)
deriving DecidableEq, Repr

/-- An error in words. -/
def ConfigError.message : ConfigError → String
  | .unreadable path reason => "Failed to read config file " ++ path.text ++ ": " ++ reason
  | .invalid problem => "Failed to parse config: " ++ problem.message

/-- What is said of a directory where a file is needed. -/
def isDirectoryMessage : String :=
  "Is a directory (os error 21)"

/-- The settings in the config file, or the standard ones if there is no such
file. -/
def loadConfig (s : Surroundings) (path : Path) : Except ConfigError Config :=
  match s.tree.findIn? s.directory path with
  | none => .ok {}
  | some (.dir _) => .error (.unreadable path isDirectoryMessage)
  | some (.file bytes) => match String.fromUTF8? bytes with
    | none => .error (.unreadable path notTextMessage)
    | some text => match Config.parse text with
      | .ok config => .ok config
      | .error problem => .error (.invalid problem)

/-- The text with a line break behind it. -/
def line (s : String) : String :=
  s ++ "\n"

/-- The lines as one text. -/
def unlines (ls : List String) : String :=
  String.join (ls.map line)

/-- How a report is printed: the violations, and apart from them the summary. -/
def reportResult (report : Report) : Result where
  exit := if report.outcome = .success then 0 else 1
  stdout := unlines (report.violations.map Violation.render)
  stderr := "\n" ++ line report.summary

/-- Checks the tree below the path. -/
def runCheck (s : Surroundings) (path : Path) (rule : Option String) (config : Path) : Result :=
  match loadConfig s config with
  | .error e => { exit := 1, stderr := line ("Config error: " ++ e.message) }
  | .ok config =>
    let analysis : Analysis := ⟨s.directory.join path, config, rule⟩
    let remarks := analysis.remarks s.tree
    match analysis.run s.tree with
    | .ok report => { reportResult report with remarks }
    | .error e => { exit := 1, stderr := line ("Analysis error: " ++ e.message), remarks }

-- ---------------------------------------------------------------------------
-- The other tasks
-- ---------------------------------------------------------------------------

/-- Lists the rules. -/
def runListRules : Result where
  exit := 0
  stderr := line "Available rules:\n"
    ++ unlines (Rule.all.flatMap fun r => ["  " ++ r.name, "    " ++ r.description ++ "\n"])

/-- Lists the known symbols, or those of one header. -/
def runSymbols (knowledge : Knowledge) : Option String → Result
  | none =>
    { exit := 0, stdout := unlines (knowledge.sorted.map fun (s, h) => s ++ " -> " ++ h) }
  | some header =>
    match knowledge.symbolsFor header with
    | [] => { exit := 1, stderr := line ("No symbols mapped to " ++ header) }
    | symbols => { exit := 0, stdout := unlines symbols }

/-- Creates a config file where there is none. -/
def runInit (s : Surroundings) : Result :=
  if (s.tree.findIn? s.directory ⟨Config.fileName⟩).isSome then
    { exit := 1, stderr := line (Config.fileName ++ " already exists") }
  else
    { exit := 0, stderr := line ("Created " ++ Config.fileName)
      created := some (s.directory.child Config.fileName, Config.initialText) }

/-- The result of a task. -/
def runTask (s : Surroundings) : Task → Result
  | .check path rule config => runCheck s path rule config
  | .listRules => runListRules
  | .symbols header => runSymbols Knowledge.builtin header
  | .init => runInit s

-- ---------------------------------------------------------------------------
-- Requests and arguments
-- ---------------------------------------------------------------------------

/-- What the version request prints. -/
def versionLine : String :=
  "srccheck 0.1.0"

/-- What the program or a subcommand is for. -/
def about : Option Subcommand → String
  | none => "Convention checker for C++ source trees"
  | some .check => "Run convention checks on a source tree"
  | some .listRules => "List all available rules"
  | some .symbols => "Print the symbol → header knowledge base"
  | some .init => "Generate a default srccheck.toml"
  | some .help => "Print this message or the help of the given subcommand(s)"

/-- What may stand behind the name of the program. -/
def usage : Option Subcommand → String
  | none => "[OPTIONS] <COMMAND>"
  | some .check => "check [OPTIONS] [PATH]"
  | some .listRules => "list-rules [OPTIONS]"
  | some .symbols => "symbols [OPTIONS]"
  | some .init => "init [OPTIONS]"
  | some .help => "help [COMMAND]..."

/-- The head of a help text. The lists of commands and options that follow it
are left out. -/
def helpText (topic : Option Subcommand) : String :=
  about topic ++ "\n\nUsage: srccheck " ++ usage topic

/-- The remarks that are shown: the flags count before the environment. -/
def threshold (flags : Flags) (setting : Option String) : Log.Threshold :=
  if flags.debug then some .debug
  else if flags.verbose then some .info
  else .ofSetting setting

/-- The result of a request, with the remarks that are shown. -/
def run (s : Surroundings) : Request → Result
  | .version => { exit := 0, stdout := line versionLine }
  | .help topic => { exit := 0, stdout := line (helpText topic) }
  | .run flags task =>
    let result := runTask s task
    { result with
      remarks := result.remarks.filter fun r => (threshold flags s.logSetting).shows r.level }

/-- The files after a run. -/
def Result.treeAfter (r : Result) (tree : FileTree) : FileTree :=
  match r.created with
  | none => tree
  | some (path, text) => tree.write text.toUTF8 path.place

/-- How a run ends whose arguments ask for nothing. -/
def usageResult (e : UsageError) : Result where
  exit := 2
  stderr := line ("error: " ++ e.message)

/-- The result of a list of arguments, and the files afterwards. -/
def execute (s : Surroundings) (arguments : List String) : Result × FileTree :=
  let result := match Request.parse arguments with
    | .ok request => run s request
    | .error e => usageResult e
  (result, result.treeAfter s.tree)

end SourceLint.Command
