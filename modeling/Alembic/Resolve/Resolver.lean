import Alembic.Files.Tree
/-! # Resolving resource identifiers -/

namespace Alembic.Resolve

open Files

/-- The extension of every resource file. -/
def extension : String := ".tres"

/-- The resource root of the items folder, the namespace ingredients must come from. -/
def itemsNamespace : String := "res://resources/items/"

/-- A folder on disk and the resource root its files appear under. -/
structure Folder where
  dir : String
  root : String
  deriving Repr, BEq, Inhabited

/-- The potions folder and then the items folder under a root. -/
def defaultFolders (root : String) : List Folder :=
  [⟨Path.join [root, "resources", "potions"], "res://resources/potions/"⟩,
   ⟨Path.join [root, "resources", "items"], itemsNamespace⟩]

/-- Why an identifier cannot name a resource file, if it cannot. -/
def idProblem (id : String) : Option String :=
  if id.isEmpty then some "identifier is empty"
  else if id.toList.contains '/' ∨ id.toList.contains '\\' then some "identifier must not contain path separators"
  else if id = "." ∨ id = ".." then some "identifier must not be a relative path element"
  else none

/-- Folders to search, and the identifiers already found. -/
structure Resolver where
  folders : List Folder
  found : List (String × String) := []
  deriving Inhabited

namespace Resolver

def cached? (resolver : Resolver) (id : String) : Option String :=
  (resolver.found.find? fun entry => entry.1 == id).map Prod.snd

/-- Searches the folders in order; `searched` holds the prefixes passed over so far. -/
def search (tree : Tree) (id name : String) : List Folder → List String → Except Failure String
  | [], searched => .error (.notFound id searched.reverse)
  | folder :: rest, searched =>
    let candidate := Path.join [folder.dir, name]
    match tree.stat candidate with
    | .ok (.file _) => .ok (folder.root ++ name)
    | .ok .directory => search tree id name rest (folder.root :: searched)
    | .error problem =>
      if problem.errno == .notFound then search tree id name rest (folder.root :: searched)
      else .error (.within ("error probing " ++ candidate) (.system problem))

/-- The resource path of an identifier, remembering it when found. -/
def resolve (resolver : Resolver) (tree : Tree) (id : String) : Except Failure String × Resolver :=
  match resolver.cached? id with
  | some path => (.ok path, resolver)
  | none =>
    match idProblem id with
    | some reason => (.error (.unresolvable id reason), resolver)
    | none =>
      match search tree id (id ++ extension) resolver.folders [] with
      | .ok path => (.ok path, { resolver with found := resolver.found ++ [(id, path)] })
      | .error failure => (.error failure, resolver)

theorem resolve_cached (resolver : Resolver) (tree : Tree) (id path : String)
    (remembered : resolver.cached? id = some path) :
    resolver.resolve tree id = (.ok path, resolver) := by
  simp [resolve, remembered]

end Resolver

/-- Fails unless a path lies under a namespace prefix. -/
def requireNamespace (path allowed recipe role : String) : Except Failure Unit :=
  if path.startsWith allowed then .ok ()
  else .error (.roleType recipe role path allowed)

end Alembic.Resolve
