import Alembic.Files.Tree
import Alembic.Text.Lowercase
/-! # Finding files by extension -/

namespace Alembic.Files

/-- Whether a name ends with one of the extensions, ignoring case. -/
def hasExtension (extensions : List String) (name : String) : Bool :=
  extensions.any fun extension => (Text.lowerText name).endsWith (Text.lowerText extension)

/-- Asking for files without naming an extension. -/
def noExtensionMessage : String := "at least one extension is required"

/-- The matching regular files of a directory, sorted. An empty list of extensions is refused
with `none`. -/
def findFiles (tree : Tree) (directory : String) (extensions : List String) :
    Option (Except SystemError (List String)) :=
  if extensions.isEmpty then none
  else
    some <| (tree.readDir directory).map fun entries =>
      let chosen := entries.filterMap fun entry =>
        match entry.2 with
        | .file _ => if hasExtension extensions entry.1 then some (Path.join [directory, entry.1]) else none
        | .directory => none
      chosen.mergeSort fun a b => decide (a ≤ b)

end Alembic.Files
