import PageMerge.Log.Moment
import PageMerge.Program
import Std.Time.DateTime

/-!
# The executable

Brings the files that a call names into a tree, lets the program work on them, and writes back what
changed. There is no network around it: no server is reached and no address can be listened at.
The variable `UPLOADER_LOG` of the environment says which entries of the log are kept.
-/

namespace PageMerge.Main

open PageMerge.CommandLine (Environment)
open PageMerge.Files (FileTree Node Path)

/-- What stands at a path. -/
def look (path : Path) : IO (Option Node) := do
  match ← (IO.FS.readBinFile path.text).toBaseIO with
  | .ok content => return some (.file content.toList)
  | .error _ =>
    let place := (← IO.currentDir) / path.text
    return if ← place.isDir then some .directory else none

/-- Adds what stands at a path to a tree that has everything above it. -/
def addNode (tree : FileTree) (path : Path) : IO FileTree := do
  match ← look path with
  | some (.file content) => return (tree.writeFile path content).toOption.getD tree
  | some .directory => return (tree.makeDirectory path).toOption.getD tree
  | none => return tree

/-- The tree of everything at paths and above them. -/
def gather (paths : List Path) : IO FileTree :=
  paths.foldlM (fun tree path => path.ancestors.reverse.foldlM addNode tree) .empty

/-- Writes what changed. -/
def put (change : Path × Node) : IO Unit :=
  match change with
  | (path, .file content) => IO.FS.writeBinFile path.text ⟨content.toArray⟩
  | (path, .directory) => IO.FS.createDirAll path.text

/-- The time at which the call is made. -/
def now : IO String := do
  let moment ← Std.Time.Timestamp.now
  return Log.momentText moment.toSecondsSinceUnixEpoch.val.toNat

end PageMerge.Main

open PageMerge in
/-- A call of the program. -/
def main (words : List String) : IO UInt32 := do
  let environment : CommandLine.Environment :=
    ⟨← IO.getEnv "UPLOADER_USERNAME", ← IO.getEnv "UPLOADER_TOKEN"⟩
  let filter := ((← IO.getEnv "UPLOADER_LOG").map Log.Filter.parse).getD .standard
  let first ← Main.gather (Program.namedPaths words environment .empty)
  let files ← Main.gather (Program.namedPaths words environment first)
  let outcome := Program.call .empty words environment filter (← Main.now) files ()
  IO.eprint outcome.console
  (outcome.files.changes files).forM Main.put
  return outcome.exitCode.toUInt32
