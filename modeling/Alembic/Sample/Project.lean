import Alembic.App.Run
import Alembic.Sample.HealingDraught
/-! # Sample game projects -/

namespace Alembic.Sample

/-- The text of a placeholder resource. -/
def placeholderResource : String := "[gd_resource type=\"Resource\" format=3]\n"

/-- A game project: its files. -/
structure Project where
  tree : Files.Tree
  deriving Inhabited

/-- What a run over a project produced. -/
structure RunReport where
  output : String
  log : List String
  result : Except Failure Unit

namespace Project

/-- A project root written as a path. -/
def root : String := "."

/-- An empty project with its three folders. -/
def empty : Except SystemError Project := do
  let tree ← (({} : Files.Tree).makeDirectories "resources/potions").mapError Prod.fst
  let tree ← (tree.makeDirectories "resources/items").mapError Prod.fst
  let tree ← (tree.makeDirectories "data").mapError Prod.fst
  return ⟨tree⟩

/-- Writes a file relative to the root, creating its directory; gives its path. -/
def writeFile (project : Project) (path content : String) : Except SystemError (Project × String) := do
  let full := Path.join [root, path]
  let tree ← (project.tree.makeDirectories (Path.dir full)).mapError Prod.fst
  let tree ← tree.writeFile full content.toUTF8
  return (⟨tree⟩, full)

/-- Adds placeholder resources to a folder of `resources`. -/
def addResources (project : Project) (folder : String) (ids : List String) :
    Except SystemError Project :=
  ids.foldlM (fun project id => do
    let tree ← project.tree.writeFile (Path.join [root, "resources", folder, id ++ ".tres"])
      placeholderResource.toUTF8
    return ⟨tree⟩) project

def addPotions (project : Project) (ids : List String) : Except SystemError Project :=
  project.addResources "potions" ids

def addItems (project : Project) (ids : List String) : Except SystemError Project :=
  project.addResources "items" ids

/-- Adds every resource the healing draught needs. -/
def seedHealingDraught (project : Project) : Except SystemError Project := do
  let project ← project.addPotions healingDraughtPotions
  project.addItems healingDraughtItems

/-- Writes the recipe table at its default place. -/
def writeTable (project : Project) (content : String) : Except SystemError (Project × String) :=
  project.writeFile App.defaultTablePath content

/-- Where the resource of a recipe is written by default. -/
def recipePath (id : String) : String :=
  Path.join [root, App.defaultOutDir, id ++ ".tres"]

/-- The text of the resource written for a recipe, when there is one. -/
def readRecipe (project : Project) (id : String) : Except SystemError String :=
  (project.tree.readFile (recipePath id)).map Text.decodeLossy

/-- Whether nothing at all is at the resource path of a recipe. -/
def lacksRecipe (project : Project) (id : String) : Bool :=
  match project.tree.stat (recipePath id) with
  | .error problem => problem.errno == .notFound
  | .ok _ => false

/-- Runs the compiler over the project with the given settings, rooted at the project;
the log level is debug unless one is given. Settings that are refused give their reason. -/
def runWithConfig (project : Project) (config : App.Config) :
    Except String (RunReport × Project) := do
  let config ← App.Config.make
    { config with root := root, logLevel := if config.logLevel.isEmpty then "debug" else config.logLevel }
  let (runner, setup) := App.Runner.make config false
  let outcome := runner.run project.tree
  return ({ output := outcome.stdout, log := setup ++ outcome.log, result := outcome.result },
    ⟨outcome.tree⟩)

/-- Runs the compiler over the project with the default paths. -/
def runApp (project : Project) (failFast : Bool) : Except String (RunReport × Project) :=
  project.runWithConfig { failFast }

end Project

end Alembic.Sample
