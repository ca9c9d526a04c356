import SourceLint.Analysis.Run
import SourceLint.Bytewise.Disk

/-!
# Runs byte by byte

The run of an analysis whose root is a path of bytes. Where the bytes of a path
spell a text, all is as with texts. Where they do not, the path is shown, and
the pattern of a directory is made of what is shown: a search below a directory
whose path is no text goes elsewhere.

The settings are text. What a rule tells of a file is told of its path as it is
shown, but files are ordered by their bytes.

* `discover` — the files of a run;
* `run` — its report.
-/

namespace SourceLint.Bytewise

-- ---------------------------------------------------------------------------
-- Discovery
-- ---------------------------------------------------------------------------

/-- The directory of a source; `.` is the root as it is. -/
def sourceDir (root source : Path) : Path :=
  if source.components = [.here] then root else root.join (spelled source)

/-- One of the patterns describes the path relative to the root, as it is
shown. -/
def isExcluded (patterns : List String) (root path : Path) : Bool :=
  patterns.any (describesFile · (shown (path.relativeTo root)))

/-- The files with one extension below a directory. -/
def candidatesIn (tree : FileTree) (scope : Scope) (root dir : Path)
    (extension : String) (kind : FileKind) : Except Glob.Failure (List Candidate) :=
  let isWanted : Path → Bool := fun p =>
    hasFile tree p && !isExcluded scope.excludePatterns root p
  (Glob.find (disk tree) (filePattern (shown dir) extension)).map fun paths =>
    (paths.filter isWanted).map (⟨·, kind⟩)

/-- The files below one source; a source that is no directory has none. -/
def candidatesOf (tree : FileTree) (scope : Scope) (root source : Path) :
    Except Glob.Failure (List Candidate) :=
  let dir := sourceDir root source
  if hasDir tree dir then
    (scope.extensions.mapM fun (extension, kind) =>
      candidatesIn tree scope root dir extension kind).map List.flatten
  else .ok []

/-- The files of a run: each once, as it was first found, in the order of
their paths. -/
def discover (tree : FileTree) (scope : Scope) (root : Path) :
    Except Glob.Failure (List Candidate) :=
  (scope.sources.mapM (candidatesOf tree scope root)).map fun found =>
    sortBy (fun a b => a.path.le b.path) (distinctOn (·.path.components) found.flatten)

-- ---------------------------------------------------------------------------
-- The run
-- ---------------------------------------------------------------------------

/-- The file as the rules see it. A name that is no text is no test's. -/
def sourceFile (path root : Path) (kind : FileKind) (text : String) : SourceFile where
  path := shown (path.relativeTo root)
  kind := kind
  isTest := (path.fileName?.bind text?).any SourceFile.isTestName
  text := text

/-- The file with its path relative to the root, if its bytes are text. -/
def read (a : Analysis) (tree : FileTree) (c : Candidate) :
    Except AnalysisError (Path × SourceFile) :=
  match fileText? tree c.path with
  | some text => .ok (c.path.relativeTo a.root, sourceFile c.path a.root c.kind text)
  | none => .error (.notText (shown c.path))

/-- The chosen rule exists, and the root is a directory. -/
def precheck (a : Analysis) (tree : FileTree) : Except AnalysisError Unit :=
  match a.only.filter fun name => (Rule.ofName? name).isNone with
  | some name => .error (.unknownRule name)
  | none =>
    if a.root.text ≠ "" ∧ hasDir tree a.root then .ok () else .error (.rootNotFound (shown a.root))

/-- The violations of all files, in the order of the files. -/
def collect (a : Analysis) (files : List (Path × SourceFile)) : List Violation :=
  (sortBy (fun v w => v.1.le w.1)
    (files.flatMap fun (path, file) => (a.checkFile file).map (path, ·))).map (·.2)

/-- The report of the run. -/
def run (a : Analysis) (tree : FileTree) : Except AnalysisError Report := do
  precheck a tree
  let candidates ← (discover tree a.config.scope a.root).mapError .ofFailure
  let files ← candidates.mapM (read a tree)
  .ok ⟨collect a files, candidates.length⟩

end SourceLint.Bytewise
