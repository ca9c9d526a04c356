import SourceLint.Analysis.Run
import SourceLint.Log
import SourceLint.Text.Quoted

/-!
# What a run tells

A run remarks on where it starts, on sources that are not there, on how many
files it found, on each file, and on the result. It stops telling where it
fails.
-/

namespace SourceLint.Analysis

/-- A source that is no directory. -/
def missingSource (dir : Path) : Log.Remark :=
  ⟨.warn, "Source directory " ++ dir.text ++ " does not exist, skipping"⟩

/-- The sources up to the first one whose files cannot be searched. -/
def searchedSources (a : Analysis) (tree : FileTree) : List Path :=
  a.config.scope.sources.takeWhile fun source =>
    (candidatesOf tree a.config.scope a.root source).toOption.isSome

/-- The remarks on missing sources. -/
def sourceRemarks (a : Analysis) (tree : FileTree) : List Log.Remark :=
  (((a.searchedSources tree).map (sourceDir a.root)).filter (!tree.hasDir ·)).map missingSource

/-- The remarks on the files that were found, and on the result if there is
one. -/
def fileRemarks (a : Analysis) (tree : FileTree) (candidates : List Candidate) :
    List Log.Remark :=
  ⟨.info, "Found " ++ toString candidates.length ++ " files to analyze"⟩
    :: candidates.map (fun c => ⟨.debug, "Analyzing " ++ c.kind.name ++ ": " ++ c.path.text⟩)
    ++ match a.run tree with
      | .ok report =>
        [⟨.info, "Analysis complete: " ++ toString report.violations.length ++ " violations in "
          ++ toString report.filesChecked ++ " files"⟩]
      | .error _ => []

/-- All that the run tells, in order. -/
def remarks (a : Analysis) (tree : FileTree) : List Log.Remark :=
  match a.precheck tree with
  | .error _ => []
  | .ok _ =>
    ⟨.info, "Starting analysis at " ++ Text.quote a.root.text⟩ :: a.sourceRemarks tree
      ++ match a.discover tree with
        | .error _ => []
        | .ok candidates => a.fileRemarks tree candidates

end SourceLint.Analysis
