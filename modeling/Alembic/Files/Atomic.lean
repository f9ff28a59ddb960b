import Alembic.Files.Tree
/-! # Replacing a file in one step -/

namespace Alembic.Files

/-- The name pattern of the temporary file for a path; the `*` becomes a number. -/
def temporaryPattern (path : String) : String := "." ++ Path.base path ++ ".*.tmp"

/-- Writes, sets the mode of, closes and moves into place an open temporary file. A failure gives
the tree as the failed step left it. -/
def placeTemporary (opened : Tree) (file : OpenFile) (path : String) (content : ByteArray) (perm : Nat) :
    Except (Failure × Tree) Tree :=
  match opened.writeOpen file content with
  | .error problem => .error (.within ("failed to write " ++ file.name) (.system problem), opened)
  | .ok written =>
    match written.chmodOpen file perm with
    | .error problem => .error (.within ("failed to chmod " ++ file.name) (.system problem), written)
    | .ok changed =>
      match changed.closeOpen file with
      | .error problem => .error (.within ("failed to close " ++ file.name) (.system problem), changed)
      | .ok () =>
        match changed.rename file.name path with
        | .error problem =>
          .error (.within ("failed to move " ++ path ++ " into place") (.system problem), changed)
        | .ok moved => .ok moved

/-- Writes a file with a mode by way of a temporary file moved into place. -/
def writeFileAtomic (tree : Tree) (path : String) (content : ByteArray) (perm : Nat) :
    Except (Failure × Tree) Tree :=
  let directory := Path.dir path
  match tree.createTemp directory (temporaryPattern path) with
  | .error problem =>
    .error (.within ("failed to create temp file in " ++ directory) (.system problem), tree)
  | .ok (file, opened) =>
    let removeTemporary (current : Tree) : Tree := (current.remove file.name).getD current
    match placeTemporary opened file path content perm with
    | .error (failure, current) => .error (failure, removeTemporary current)
    | .ok moved => .ok (removeTemporary moved)

/-- Writes a file atomically with the mode its callers give. -/
def writeAtomic (tree : Tree) (path : String) (content : ByteArray) : Except (Failure × Tree) Tree :=
  writeFileAtomic tree path content fileMode

end Alembic.Files
