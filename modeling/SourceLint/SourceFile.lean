import SourceLint.Path.Relative

/-!
# Source files

What a rule knows of a file: its path relative to the checked root, its kind
and its text. Whether it is a header is decided by the extension lists of the
settings, and a test is told by its name.
-/

namespace SourceLint

/-- Whether a file is a header or is compiled by itself. -/
inductive FileKind where
  | header
  | source
deriving DecidableEq, Repr

/-- The word for a kind of file. -/
def FileKind.name : FileKind → String
  | .header => "header"
  | .source => "source"

/-- A file as the rules see it. -/
structure SourceFile where
  /-- The path below the checked root. -/
  path : Path
  kind : FileKind
  isTest : Bool
  text : String
deriving DecidableEq

namespace SourceFile

/-- Test files are named `…_test.cpp`. -/
def isTestName (name : String) : Bool :=
  "_test.cpp".toList.isSuffixOf name.toList

/-- The file at `path` seen from `root`. -/
def ofPath (path root : Path) (kind : FileKind) (text : String) : SourceFile where
  path := path.relativeTo root
  kind := kind
  isTest := path.fileName?.any isTestName
  text := text

end SourceFile

end SourceLint
