import Alembic.Failure
/-! # Slash-separated paths -/

namespace Alembic.Path

/-- The elements between separators, empty ones included. -/
def elements (path : String) : List String := (path.toList.splitOn '/').map String.ofList

def isAbs (path : String) : Bool := path.startsWith "/"

/-- The elements of a path after cleaning, with `..` kept only where it cannot cancel. -/
def cleanElements (rooted : Bool) : List String → List String → List String
  | [], stack => stack.reverse
  | element :: rest, stack =>
    if element.isEmpty ∨ element = "." then cleanElements rooted rest stack
    else if element = ".." then
      match stack with
      | top :: below =>
        if top = ".." then cleanElements rooted rest (".." :: stack)
        else cleanElements rooted rest below
      | [] => if rooted then cleanElements rooted rest [] else cleanElements rooted rest [".."]
    else cleanElements rooted rest (element :: stack)

/-- The shortest path lexically equivalent to the given one. -/
def clean (path : String) : String :=
  let rooted := isAbs path
  let kept := "/".intercalate (cleanElements rooted (elements path) [])
  if rooted then "/" ++ kept
  else if kept.isEmpty then "." else kept

/-- The non-empty parts joined by separators, cleaned; empty when every part is empty. -/
def join (parts : List String) : String :=
  match parts.filter (fun part => !part.isEmpty) with
  | [] => ""
  | kept => clean ("/".intercalate kept)

/-- Everything up to the last separator, cleaned. -/
def dir (path : String) : String :=
  match (path.toList.reverse.dropWhile (· ≠ '/')) with
  | [] => "."
  | kept => clean (String.ofList kept.reverse)

/-- The last element, ignoring trailing separators; `.` for the empty path. -/
def base (path : String) : String :=
  if path.isEmpty then "."
  else
    let trimmed := path.toList.reverse.dropWhile (· = '/')
    if trimmed.isEmpty then "/"
    else String.ofList (trimmed.takeWhile (· ≠ '/')).reverse

/-- The extension of the last element: from its last dot on, or empty without a dot. -/
def ext (path : String) : String :=
  let lastElement := (path.toList.reverse.takeWhile (· ≠ '/'))
  if lastElement.contains '.' then
    String.ofList (lastElement.takeWhile (· ≠ '.') ++ ['.']).reverse
  else ""

/-- The elements of a cleaned path, without its root. -/
def cleanedElements (path : String) : List String :=
  (elements path).filter fun element => !element.isEmpty ∧ element ≠ "."

/-- Drops the common leading elements of two lists. -/
def dropCommon : List String → List String → List String × List String
  | a :: as, b :: bs => if a = b then dropCommon as bs else (a :: as, b :: bs)
  | as, bs => (as, bs)

/-- The path that leads from `basePath` to `target`, lexically. -/
def rel (basePath target : String) : Except String String :=
  let baseClean := clean basePath
  let targetClean := clean target
  let refuse : Except String String :=
    .error ("Rel: can't make " ++ target ++ " relative to " ++ basePath)
  if targetClean = baseClean then .ok "."
  else if isAbs baseClean ≠ isAbs targetClean then refuse
  else
    let targetElements := if targetClean = "." then ["."] else cleanedElements targetClean
    let (baseRest, targetRest) := dropCommon (cleanedElements baseClean) targetElements
    match baseRest with
    | [] => .ok ("/".intercalate targetRest)
    | first :: _ =>
      if first = ".." then refuse
      else
        let climb := "/".intercalate (baseRest.map fun _ => "..")
        .ok (if targetRest.isEmpty then climb else climb ++ "/" ++ "/".intercalate targetRest)

/-- Whether a path stays below the place it is taken from: relative, not empty, and not
climbing out with `..`. -/
def isLocal (path : String) : Bool :=
  if isAbs path ∨ path.isEmpty then false
  else
    let cleaned := clean path
    !(cleaned = ".." ∨ cleaned.startsWith "../")

/-- The path with its extension replaced by `.png`. -/
def pngPath (path : String) : String :=
  String.ofList (path.toList.take (path.length - (ext path).length)) ++ ".png"

theorem join_nil : join [] = "" := rfl

end Alembic.Path
