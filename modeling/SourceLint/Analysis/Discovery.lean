import SourceLint.Config.Basic
import SourceLint.Distinct
import SourceLint.Glob.Walk
import SourceLint.Path.Relative
import SourceLint.SourceFile
import SourceLint.Sort

/-!
# Discovery

The files of a run are found by name below each source directory: those with a
header extension first, then those with a source extension. A file that is
found again keeps the path and the kind of its first find. Files are left out
by patterns on their path relative to the checked root, so that directories
above the root never matter.

A run has no files if an extension spells no pattern, or if a directory on the
way cannot be read.

* `sourceDir` — where a source of the settings lies;
* `isExcluded` — a file is left out;
* `discover` — the files of a run, in the order of their paths.
-/

namespace SourceLint

/-- A file of a run, before it is read. -/
structure Candidate where
  path : Path
  kind : FileKind
deriving DecidableEq, Repr

/-- The directory of a source; `.` is the root as it is written. -/
def sourceDir (root source : Path) : Path :=
  if source.components = [.here] then root else root.join source

/-- The patterns of files to leave out. Where none is set, build directories
are left out. -/
def Scope.excludePatterns (s : Scope) : List String :=
  if s.exclude.isEmpty then ["**/build/**"] else s.exclude

/-- The text is a pattern and describes the path. -/
def describesFile (text : String) (file : Path) : Bool :=
  match Glob.Pattern.parse text.toList with
  | .ok pattern => pattern.accepts file.text.toList
  | .error _ => false

/-- One of the patterns describes the path relative to the root. What is no
pattern describes nothing. -/
def isExcluded (patterns : List String) (root path : Path) : Bool :=
  patterns.any (describesFile · (path.relativeTo root))

/-- The extensions with the kind of file that each stands for. -/
def Scope.extensions (s : Scope) : List (String × FileKind) :=
  s.headerExtensions.map (·, .header) ++ s.sourceExtensions.map (·, .source)

/-- The pattern of the files with the extension below the directory. The
directory stands for itself, but an extension may be a pattern. -/
def filePattern (dir : Path) (extension : String) : List Char :=
  Glob.escape dir.text.toList ++ "/**/*.".toList ++ extension.toList

/-- The files with one extension below a directory. -/
def candidatesIn (tree : FileTree) (scope : Scope) (root dir : Path)
    (extension : String) (kind : FileKind) : Except Glob.Failure (List Candidate) :=
  let isWanted : Path → Bool := fun p =>
    tree.hasFile p && !isExcluded scope.excludePatterns root p
  (Glob.find tree.disk (filePattern dir extension)).map fun paths =>
    (paths.filter isWanted).map (⟨·, kind⟩)

/-- The files below one source; a source that is no directory has none. -/
def candidatesOf (tree : FileTree) (scope : Scope) (root source : Path) :
    Except Glob.Failure (List Candidate) :=
  let dir := sourceDir root source
  if tree.hasDir dir then
    (scope.extensions.mapM fun (extension, kind) =>
      candidatesIn tree scope root dir extension kind).map List.flatten
  else .ok []

/-- The files of a run: each once, as it was first found, in the order of
their paths. -/
def discover (tree : FileTree) (scope : Scope) (root : Path) :
    Except Glob.Failure (List Candidate) :=
  (scope.sources.mapM (candidatesOf tree scope root)).map fun found =>
    sortBy (fun a b => a.path.le b.path) (distinctOn (·.path.components) found.flatten)

end SourceLint
