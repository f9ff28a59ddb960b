import Alembic.Files.Path
/-! # A tree of files -/

namespace Alembic.Files

/-- What a path holds. -/
inductive Node where
  | directory
  | file (content : ByteArray)
  deriving Inhabited

namespace Node

def isDirectory : Node → Bool
  | .directory => true
  | .file _ => false

end Node

/-- The key of an entry inside a directory. -/
def childKey (parent name : String) : String :=
  if parent.isEmpty then name else parent ++ "/" ++ name

/-- The key of the directory holding an entry. -/
def parentKey (key : String) : String :=
  match key.toList.reverse.dropWhile (· ≠ '/') with
  | [] => ""
  | _ :: kept => String.ofList kept.reverse

/-- The longest name a directory entry may have, in bytes. -/
def nameLimit : Nat := 255

/-- Where a walk along a path ends. -/
inductive Place where
  /-- At an existing entry. -/
  | found (key : String) (node : Node)
  /-- At a name that a directory does not hold. -/
  | missing (parent name : String)

/-- A step on an open file that the device can refuse, whatever the tree holds. -/
inductive FileStep where
  | write
  | chmod
  | close
  deriving DecidableEq, Repr, Inhabited

/-- A file the process holds open: the name it was opened by and the key of its entry. -/
structure OpenFile where
  name : String
  key : String
  deriving Repr, Inhabited

/-- The mode `os.CreateTemp` creates a file with. -/
def temporaryMode : Nat := 0o600

/-- The mode files are written with, by `os.WriteFile` and by both callers of the atomic write. -/
def fileMode : Nat := 0o644

/-- The mode directories are made with. -/
def directoryMode : Nat := 0o755

/-- The file system from its root. -/
structure Tree where
  /-- Every entry but the root, by key. -/
  entries : List (String × Node) := []
  /-- How many temporary files were made, which numbers their names. -/
  temporaries : Nat := 0
  /-- The permission bits given to entries, by key; a key no longer held has none. -/
  modes : List (String × Nat) := []
  /-- The steps on open files the device refuses, with the error it gives. -/
  refusals : List (FileStep × Errno) := []
  deriving Inhabited

namespace Tree

def find? (tree : Tree) (key : String) : Option Node :=
  if key.isEmpty then some .directory
  else (tree.entries.find? fun entry => entry.1 == key).map Prod.snd

/-- The permission bits of the entry at a key, when it was given some. -/
def modeOf (tree : Tree) (key : String) : Option Nat :=
  if (tree.find? key).isSome then (tree.modes.find? fun entry => entry.1 == key).map Prod.snd
  else none

/-- The tree with the mode of a key set, or forgotten. -/
def setMode (tree : Tree) (key : String) (mode : Option Nat) : Tree :=
  { tree with modes := (tree.modes.filter fun entry => entry.1 != key) ++ (mode.map (key, ·)).toList }

/-- The error the device gives for a step, if it refuses it. -/
def refusal (tree : Tree) (step : FileStep) : Option Errno :=
  (tree.refusals.find? fun entry => entry.1 == step).map Prod.snd

/-- The tree with the entry at a key set. -/
def put (tree : Tree) (key : String) (node : Node) : Tree :=
  { tree with entries := (tree.entries.filter fun entry => entry.1 != key) ++ [(key, node)] }

/-- The tree without the entry at a key and without everything below it. -/
def erase (tree : Tree) (key : String) : Tree :=
  { tree with
    entries := tree.entries.filter fun entry =>
      !(entry.1 == key ∨ entry.1.startsWith (key ++ "/")) }

/-- The entries directly inside a directory, sorted by name. -/
def children (tree : Tree) (key : String) : List (String × Node) :=
  let inside := tree.entries.filterMap fun entry =>
    if parentKey entry.1 == key ∧ !entry.1.isEmpty then
      some (if key.isEmpty then entry.1 else String.ofList (entry.1.toList.drop (key.length + 1)),
        entry.2)
    else none
  inside.mergeSort fun a b => decide (a.1 ≤ b.1)

/-- Walks the remaining elements of a path from an entry. -/
def walk (tree : Tree) (current : String) (node : Node) : List String → Except Errno Place
  | [] => .ok (.found current node)
  | element :: rest =>
    match node with
    | .file _ => .error .notDirectory
    | .directory =>
      if element.isEmpty ∨ element = "." then walk tree current node rest
      else if element = ".." then walk tree (parentKey current) .directory rest
      else if element.utf8ByteSize > nameLimit then .error .nameTooLong
      else
        let key := childKey current element
        match tree.find? key with
        | some child => walk tree key child rest
        | none =>
          if rest.all (·.isEmpty) then .ok (.missing current element) else .error .notFound

/-- Where a path leads. -/
def locate (tree : Tree) (path : String) : Except Errno Place :=
  if path.toList.contains '\x00' then .error .invalidArgument
  else if path.isEmpty then .error .notFound
  else walk tree "" .directory (Path.elements path)

/-- The node a path names. -/
def stat (tree : Tree) (path : String) : Except SystemError Node :=
  match tree.locate path with
  | .ok (.found _ node) => .ok node
  | .ok (.missing ..) => .error (.onPath "stat" path .notFound)
  | .error errno => .error (.onPath "stat" path errno)

/-- The content of a file. -/
def readFile (tree : Tree) (path : String) : Except SystemError ByteArray :=
  match tree.locate path with
  | .ok (.found _ (.file content)) => .ok content
  | .ok (.found _ .directory) => .error (.onPath "read" path .isDirectory)
  | .ok (.missing ..) => .error (.onPath "open" path .notFound)
  | .error errno => .error (.onPath "open" path errno)

/-- The entries of a directory, sorted by name. -/
def readDir (tree : Tree) (path : String) : Except SystemError (List (String × Node)) :=
  match tree.locate path with
  | .ok (.found key .directory) => .ok (tree.children key)
  | .ok (.found _ (.file _)) => .error (.onPath "open" path .notDirectory)
  | .ok (.missing ..) => .error (.onPath "open" path .notFound)
  | .error errno => .error (.onPath "open" path errno)

/-- Writes a file, creating it with the usual mode or replacing its content. -/
def writeFile (tree : Tree) (path : String) (content : ByteArray) : Except SystemError Tree :=
  match tree.locate path with
  | .ok (.found key (.file _)) => .ok (tree.put key (.file content))
  | .ok (.found _ .directory) => .error (.onPath "open" path .isDirectory)
  | .ok (.missing parent name) =>
    .ok ((tree.put (childKey parent name) (.file content)).setMode (childKey parent name) (some fileMode))
  | .error errno => .error (.onPath "open" path errno)

/-- Creates a new empty file with a mode and opens it, failing when the name is taken. -/
def createFile (tree : Tree) (path : String) (mode : Nat) : Except SystemError (OpenFile × Tree) :=
  match tree.locate path with
  | .ok (.found ..) => .error (.onPath "open" path .alreadyExists)
  | .ok (.missing parent name) =>
    .ok (⟨path, childKey parent name⟩,
      (tree.put (childKey parent name) (.file ByteArray.empty)).setMode (childKey parent name) (some mode))
  | .error errno => .error (.onPath "open" path errno)

/-- Writes the whole content to an open file. -/
def writeOpen (tree : Tree) (file : OpenFile) (content : ByteArray) : Except SystemError Tree :=
  match tree.refusal .write with
  | some errno => .error (.onPath "write" file.name errno)
  | none => .ok (tree.put file.key (.file content))

/-- Sets the mode of an open file. -/
def chmodOpen (tree : Tree) (file : OpenFile) (mode : Nat) : Except SystemError Tree :=
  match tree.refusal .chmod with
  | some errno => .error (.onPath "chmod" file.name errno)
  | none => .ok (tree.setMode file.key (some mode))

/-- Closes an open file. -/
def closeOpen (tree : Tree) (file : OpenFile) : Except SystemError Unit :=
  match tree.refusal .close with
  | some errno => .error (.onPath "close" file.name errno)
  | none => .ok ()

/-- Creates one directory. -/
def mkdir (tree : Tree) (path : String) : Except SystemError Tree :=
  match tree.locate path with
  | .ok (.found ..) => .error (.onPath "mkdir" path .alreadyExists)
  | .ok (.missing parent name) =>
    .ok ((tree.put (childKey parent name) .directory).setMode (childKey parent name) (some directoryMode))
  | .error errno => .error (.onPath "mkdir" path errno)

/-- The part of a path before the separator of its last element, trailing separators
ignored. -/
def parentText (path : String) : String :=
  let trimmed := path.toList.reverse.dropWhile (· = '/')
  match trimmed.dropWhile (· ≠ '/') with
  | [] => ""
  | _ :: kept => String.ofList kept.reverse

/-- Creates a directory and the directories above it that are missing. A failure gives the tree
with the directories made before it. -/
def mkdirAll (tree : Tree) (path : String) : Nat → Except (SystemError × Tree) Tree
  | 0 => (tree.mkdir path).mapError (·, tree)
  | fuel + 1 =>
    match tree.stat path with
    | .ok .directory => .ok tree
    | .ok (.file _) => .error (.onPath "mkdir" path .notDirectory, tree)
    | .error _ =>
      let parent := parentText path
      let prepared :=
        if parent.isEmpty ∨ parent = "/" then .ok tree else tree.mkdirAll parent fuel
      match prepared with
      | .error stopped => .error stopped
      | .ok ready =>
        match ready.mkdir path with
        | .ok done => .ok done
        | .error failure =>
          match ready.stat path with
          | .ok .directory => .ok ready
          | _ => .error (failure, ready)

/-- Creates a directory with its parents, as deep as the path goes. -/
def makeDirectories (tree : Tree) (path : String) : Except (SystemError × Tree) Tree :=
  tree.mkdirAll path (path.length + 1)

/-- The entry at a key moved to another key, with its mode. -/
def move (tree : Tree) (source target : String) (node : Node) : Tree :=
  ((tree.erase source).put target node).setMode target (tree.modeOf source)

/-- Moves a file to a new path, replacing a file there. -/
def rename (tree : Tree) (source target : String) : Except SystemError Tree :=
  let refuse (errno : Errno) : Except SystemError Tree := .error (.onLink "rename" source target errno)
  match tree.locate target, tree.locate source with
  | .ok (.found _ .directory), .ok (.found ..) => refuse .alreadyExists
  | _, .error errno => refuse errno
  | _, .ok (.missing ..) => refuse .notFound
  | .error errno, _ => refuse errno
  | .ok (.found key _), .ok (.found sourceKey node) =>
    if key == sourceKey then .ok tree else .ok (tree.move sourceKey key node)
  | .ok (.missing parent name), .ok (.found sourceKey node) =>
    .ok (tree.move sourceKey (childKey parent name) node)

/-- Removes a file or an empty directory; false when nothing was removed. -/
def remove (tree : Tree) (path : String) : Option Tree :=
  match tree.locate path with
  | .ok (.found key node) =>
    if key.isEmpty then none
    else if node.isDirectory ∧ !(tree.children key).isEmpty then none
    else some (tree.erase key)
  | _ => none

/-- Removes a path and everything below it. -/
def removeAll (tree : Tree) (path : String) : Tree :=
  match tree.locate path with
  | .ok (.found key _) => if key.isEmpty then { tree with entries := [] } else tree.erase key
  | _ => tree

/-- Every path under the working directory, sorted. -/
def paths (tree : Tree) : List String :=
  (tree.entries.map Prod.fst).mergeSort fun a b => decide (a ≤ b)

/-- Every file with its content, sorted by path. -/
def files (tree : Tree) : List (String × ByteArray) :=
  let found := tree.entries.filterMap fun entry =>
    match entry.2 with
    | .file content => some (entry.1, content)
    | .directory => none
  found.mergeSort fun a b => decide (a.1 ≤ b.1)

/-- The files that are new or hold other content than before, sorted by path. -/
def changedSince (after before : Tree) : List (String × ByteArray) :=
  after.files.filter fun entry =>
    match before.find? entry.1 with
    | some (.file content) => content.data != entry.2.data
    | _ => true

/-- The parts of a temporary file's name around its number: the directory joined with the text of
the pattern before its last `*`, and the text after it. -/
def temporaryParts (directory pattern : String) : String × String :=
  let chars := pattern.toList
  let (prefixPart, suffixPart) :=
    match chars.reverse.findIdx? (· = '*') with
    | some fromEnd =>
      let split := chars.length - 1 - fromEnd
      (String.ofList (chars.take split), String.ofList (chars.drop (split + 1)))
    | none => (pattern, "")
  (if directory.endsWith "/" then directory ++ prefixPart else directory ++ "/" ++ prefixPart, suffixPart)

/-- How a temporary file in a directory is named: the pattern's last `*` becomes a number. -/
def temporaryName (directory pattern : String) (number : Nat) : String :=
  (temporaryParts directory pattern).1 ++ toString number ++ (temporaryParts directory pattern).2

/-- How many names `os.CreateTemp` tries before it gives up. -/
def temporaryTries : Nat := 10000

/-- Tries numbered names for a new temporary file, the next when one is taken. -/
def createNumbered (tree : Tree) (directory pattern : String) :
    Nat → Except SystemError (OpenFile × Tree)
  | 0 =>
    .error (.onPath "createtemp"
      ((temporaryParts directory pattern).1 ++ "*" ++ (temporaryParts directory pattern).2) .alreadyExists)
  | tries + 1 =>
    let counted := { tree with temporaries := tree.temporaries + 1 }
    match counted.createFile (temporaryName directory pattern (1000 + tree.temporaries)) temporaryMode with
    | .error (.onPath _ _ .alreadyExists) => counted.createNumbered directory pattern tries
    | result => result

/-- Creates a new empty temporary file in a directory and opens it. -/
def createTemp (tree : Tree) (directory pattern : String) : Except SystemError (OpenFile × Tree) :=
  if pattern.toList.contains '/' then .error (.onPath "createtemp" pattern .separatorInPattern)
  else tree.createNumbered directory pattern temporaryTries

end Tree

end Alembic.Files
