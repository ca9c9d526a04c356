import SourceLint.Command.Run

/-!
# The program

The outermost layer: it takes from the disk the files that a request needs,
runs the request on them, prints the result and creates the file that the
result names. All decisions are made in `Command.run`.
-/

namespace SourceLint.Main

/-- The tree with what the disk has at the path: a file with its bytes, or an
empty directory. -/
def withFile (tree : FileTree) (path : Path) : IO FileTree := do
  try
    let place ← IO.FS.realPath path.text
    if ← place.isDir then return tree.makeDir path.place
    else return tree.write (← IO.FS.readBinFile place) path.place
  catch _ => return tree

/-- The directories and files below a directory of the disk, the files without
their bytes. Links are left out. -/
partial def outline (path : Path) : IO FileTree := do
  let place ← IO.FS.realPath path.text
  let mut entries := []
  for entry in ← place.readDir do
    match (← entry.path.symlinkMetadata).type with
    | .dir =>
      entries := FileTree.setEntry entry.fileName (← outline (path.child entry.fileName)) entries
    | .file => entries := FileTree.setEntry entry.fileName (.file .empty) entries
    | _ => pure ()
  return .dir entries

/-- The tree with the outline of a directory in it, if the disk has it. -/
def withOutline (tree : FileTree) (path : Path) : IO FileTree := do
  try return FileTree.put (← outline path) path.place tree
  catch _ => return tree

/-- The part of the disk that a request looks at. -/
def snapshot (directory : Path) : Command.Request → IO FileTree
  | .run _ (.check path _ config) => do
    let configPath := directory.join config
    let tree ← withFile (.dir []) configPath
    match Command.loadConfig ⟨tree, directory, none⟩ config with
    | .error _ => return tree
    | .ok settings =>
      let analysis : Analysis := ⟨directory.join path, settings, none⟩
      let sources := settings.scope.sources.map (sourceDir analysis.root)
      let tree ← (analysis.root :: sources).foldlM withOutline tree
      let candidates := (analysis.discover tree).toOption.getD []
      let tree ← (candidates.map (·.path)).foldlM withFile tree
      withFile tree configPath
  | .run _ .init => withFile (.dir []) (directory.child Config.fileName)
  | _ => return .dir []

/-- Prints a result, creates its file, and gives its exit code. -/
def finish (result : Command.Result) : IO UInt32 := do
  for remark in result.remarks do
    IO.eprintln remark.render
  IO.print result.stdout
  IO.eprint result.stderr
  match result.created with
  | some (path, text) => IO.FS.writeFile path.text text
  | none => pure ()
  return result.exit.toUInt32

end SourceLint.Main

/-- The program: its arguments are those of the command line. -/
def main (arguments : List String) : IO UInt32 := do
  let directory : SourceLint.Path := ⟨(← IO.currentDir).toString⟩
  match SourceLint.Command.Request.parse arguments with
  | .error e => SourceLint.Main.finish (SourceLint.Command.usageResult e)
  | .ok request =>
    let tree ← SourceLint.Main.snapshot directory request
    let setting ← IO.getEnv "RUST_LOG"
    SourceLint.Main.finish (SourceLint.Command.run ⟨tree, directory, setting⟩ request)
