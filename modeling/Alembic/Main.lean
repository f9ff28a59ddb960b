import Alembic.Cli.Program
import Alembic.Cli.Filter
/-! # The command line -/

namespace Alembic.Main

/-- The environment variables the recipe compiler reads. -/
def environmentNames : List String :=
  ["RECIPEGEN_ROOT", "RECIPEGEN_TABLE", "RECIPEGEN_OUT_DIR", "RECIPEGEN_LOG_LEVEL",
   "RECIPEGEN_LOG_FORMAT", "RECIPEGEN_FAIL_FAST"]

/-- A path as a key of the tree: without a leading `./`. -/
def treeKey (path : String) : String :=
  if path.startsWith "./" then String.ofList (path.toList.drop 2) else path

/-- The tree with a file added, and the directories above it. -/
def addFile (tree : Files.Tree) (path : String) (content : ByteArray) : Files.Tree :=
  match tree.makeDirectories (Path.dir path) with
  | .ok prepared => (prepared.writeFile path content).toOption.getD prepared
  | .error _ => tree

/-- Every line of a stream, to its end. -/
partial def readLines (stream : IO.FS.Stream) (lines : Array String) : IO (Array String) := do
  let line ← stream.getLine
  if line.isEmpty then return lines
  readLines stream (lines.push (line.trimAscii.toString))

/-- Reads the listed files into a tree; a file that cannot be read is left out. -/
def loadTree (paths : Array String) : IO Files.Tree :=
  paths.foldlM (fun tree path => do
    let key := treeKey path
    if key.isEmpty then return tree
    try
      let content ← IO.FS.readBinFile key
      return addFile tree key content
    catch _ => return tree) {}

/-- Writes back the directories and files a run created or changed. -/
def storeChanges (before after : Files.Tree) : IO Unit := do
  for (key, node) in after.entries do
    if node.isDirectory ∧ (before.find? key).isNone then IO.FS.createDirAll key
  for (key, content) in after.changedSince before do
    let parent := Path.dir key
    if parent ≠ "." then IO.FS.createDirAll parent
    IO.FS.writeBinFile key content

/-- Writes text to standard error, line by line. -/
def printErrors (text : String) : IO Unit :=
  if text.isEmpty then pure () else IO.eprint text

end Alembic.Main

open Alembic in
/-- Runs the recipe compiler, or the picture filter when the first argument is `imgfilter`. -/
def main (arguments : List String) : IO UInt32 := do
  let tree ← Main.loadTree (← Main.readLines (← IO.getStdin) #[])
  match arguments with
  | "imgfilter" :: rest =>
    let session := Cli.runFilter rest tree
    Main.storeChanges tree session.tree
    IO.print session.stdout
    Main.printErrors session.stderr
    return session.exitCode.toUInt32
  | _ =>
    let environment ← Main.environmentNames.filterMapM fun name => do
      return (← IO.getEnv name).map fun value => (name, value)
    let session := Cli.execute arguments environment tree
    Main.storeChanges tree session.tree
    IO.print session.stdout
    Main.printErrors (String.join (session.log.map (· ++ "\n")))
    match session.errorLine with
    | some line => IO.eprintln line
    | none => pure ()
    return (Cli.exitCode session.failure).toUInt32
