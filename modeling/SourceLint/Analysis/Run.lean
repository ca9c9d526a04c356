import SourceLint.Analysis.Discovery
import SourceLint.Knowledge.Builtin
import SourceLint.Rule.Check

/-!
# Analysis

A run checks every file it discovers and puts the violations in the order of
their files. Violations never stop a run; a file that is no text does, and so
does a directory that cannot be read.

* `Analysis` — what to check, where, and with which settings;
* `AnalysisError` — why a run has no report;
* `Analysis.run` — the report.
-/

namespace SourceLint

/-- What a run is asked to do. -/
structure Analysis where
  root : Path
  config : Config := {}
  /-- The one rule to apply, by its name. -/
  only : Option String := none

/-- Why a run has no report. -/
inductive AnalysisError where
  | unknownRule (name : String)
  | rootNotFound (root : Path)
  | badPattern (fault : Glob.Fault)
  | unreadable
  | notText (path : Path)
deriving DecidableEq, Repr

/-- What is said of a file whose bytes are no text. -/
def notTextMessage : String :=
  "stream did not contain valid UTF-8"

/-- What is said of a directory whose path is too long to be read. -/
def tooLongMessage : String :=
  "File name too long (os error 36)"

/-- What a search that fails is to a run. -/
def AnalysisError.ofFailure : Glob.Failure → AnalysisError
  | .badPattern fault => .badPattern fault
  | .unreadable => .unreadable

/-- An error in words. -/
def AnalysisError.message : AnalysisError → String
  | .unknownRule name => "Unknown rule: " ++ name
  | .rootNotFound root => "root " ++ root.text ++ " is not a directory"
  | .badPattern fault => "Invalid glob pattern: " ++ fault.message
  | .unreadable => "IO error: " ++ tooLongMessage
  | .notText path => "failed to read " ++ path.text ++ ": " ++ notTextMessage

namespace Analysis

/-- The rule takes part: it is not ruled out by the choice of one rule, and it
is enabled. -/
def applies (a : Analysis) (r : Rule) : Bool :=
  a.only.all (· = r.name) && a.config.isEnabled r.name

/-- What the rules are told. -/
def context (a : Analysis) : Rule.Context where
  knowledge := Knowledge.builtin
  maxLength := a.config.maxLength
  severity := a.config.severityOf

/-- What the rules that take part find in a file. -/
def checkFile (a : Analysis) (file : SourceFile) : List Violation :=
  (Rule.inOrder.filter a.applies).flatMap (Rule.check a.context file)

/-- The file as the rules see it, if its bytes are text. -/
def read (a : Analysis) (tree : FileTree) (c : Candidate) : Except AnalysisError SourceFile :=
  match tree.text? c.path with
  | some text => .ok (SourceFile.ofPath c.path a.root c.kind text)
  | none => .error (.notText c.path)

/-- The files of the run. -/
def discover (a : Analysis) (tree : FileTree) : Except AnalysisError (List Candidate) :=
  (SourceLint.discover tree a.config.scope a.root).mapError .ofFailure

/-- The chosen rule exists, and the root is a directory. An empty path names
nothing. -/
def precheck (a : Analysis) (tree : FileTree) : Except AnalysisError Unit :=
  match a.only.filter fun name => (Rule.ofName? name).isNone with
  | some name => .error (.unknownRule name)
  | none => if a.root.text ≠ "" ∧ tree.hasDir a.root then .ok () else .error (.rootNotFound a.root)

/-- The violations of all files, in the order of the files. -/
def collect (a : Analysis) (files : List SourceFile) : List Violation :=
  sortBy (fun v w => v.location.file.le w.location.file) (files.flatMap a.checkFile)

/-- The report of the run. -/
def run (a : Analysis) (tree : FileTree) : Except AnalysisError Report := do
  a.precheck tree
  let candidates ← a.discover tree
  let files ← candidates.mapM (a.read tree)
  .ok ⟨a.collect files, candidates.length⟩

end Analysis

end SourceLint
