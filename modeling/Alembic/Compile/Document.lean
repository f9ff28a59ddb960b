import Alembic.Compile.Ingredients
import Alembic.Resource.Registry
import Alembic.Logging.Logger
/-! # Compiling a recipe into a resource document -/

namespace Alembic.Compile

open Recipe Resource

/-- The kind of the script resource. -/
def scriptKind : String := "Script"

/-- The kind of every other external resource. -/
def resourceKind : String := "Resource"

/-- What compiling a recipe produced: the document and the registry it was built with. -/
structure Compiled where
  document : Document
  registry : Registry

/-- The properties of a recipe, given the ids of its script, its result and its ingredients. -/
def recipeProperties (definition : Definition) (scriptId resultId : Int) (ingredients : List (Entry × Int)) :
    List Property :=
  let slotOf (role : Role) : Value :=
    match ingredients.find? fun (entry, _) => entry.role == role with
    | some (_, id) => Value.optionalReference id true
    | none => Value.optionalReference 0 false
  [⟨"script", .reference scriptId⟩,
   ⟨"id", .text definition.id⟩,
   ⟨"display_name", .text definition.displayName⟩,
   ⟨"result", .reference resultId⟩,
   ⟨"result_count", .integer definition.resultCount⟩,
   ⟨"ingredients", .array (ingredients.map fun (_, id) => .reference id)⟩,
   ⟨"ingredient_counts", Value.integers (ingredients.map fun (entry, _) => entry.count)⟩,
   ⟨"tier", .integer definition.tier⟩,
   ⟨"required_alchemy_level", .integer definition.requiredAlchemyLevel⟩,
   ⟨"base_potency", .real definition.basePotency⟩,
   ⟨"potency_per_level", .real definition.potencyPerLevel⟩,
   ⟨"xp_reward", .integer definition.xpReward⟩] ++
  Role.fixedRoles.map fun role => ⟨role.field, slotOf role⟩

/-- Registers the resource of every ingredient, pairing each with its id. -/
def registerAll (registry : Registry) : List Entry → List (Entry × Int) × Registry
  | [] => ([], registry)
  | entry :: rest =>
    let (id, registry) := registry.register resourceKind entry.path
    let (others, registry) := registerAll registry rest
    ((entry, id) :: others, registry)

/-- Compiles a recipe with a fresh registry, with the debug lines it logs. -/
def Compiler.compile (compiler : Compiler) (tree : Files.Tree) (logger : Logging.Logger)
    (definition : Definition) : (Except Failure Compiled × List String) × Compiler :=
  let logger := logger.withFields [("recipe_id", .text definition.id)]
  let (scriptId, registry) := ({} : Registry).register scriptKind compiler.options.scriptPath
  let (resultFound, resolver) := compiler.resolver.resolve tree definition.result
  let compiler := { compiler with resolver }
  match resultFound with
  | .error failure =>
    ((.error (.within ("recipe " ++ definition.id ++ ": result") failure), []), compiler)
  | .ok resultPath =>
    let (resultId, registry) := registry.register resourceKind resultPath
    match compiler.assemble tree definition with
    | (.error failure, compiler) => ((.error failure, []), compiler)
    | (.ok entries, compiler) =>
      let (ingredients, registry) := registerAll registry entries
      let lines := logger.emit Logging.debug "References registered."
        [("ext_resources", .int registry.size), ("ingredients", .int entries.length)]
      let document : Document :=
        { kind := resourceKind, scriptClass := compiler.options.scriptClass,
          loadSteps := registry.loadSteps,
          externals := registry.entries,
          properties := recipeProperties definition scriptId resultId ingredients }
      ((.ok ⟨document, registry⟩, lines), compiler)

/-- The text of a recipe's document, with the debug lines compiling it logged. -/
def Compiler.emit (compiler : Compiler) (tree : Files.Tree) (logger : Logging.Logger)
    (definition : Definition) : (Except Failure String × List String) × Compiler :=
  let ((compiled, lines), compiler) := compiler.compile tree logger definition
  ((compiled.map fun result => result.document.render, lines), compiler)

theorem compile_result_missing (compiler : Compiler) (tree : Files.Tree) (logger : Logging.Logger)
    (definition : Definition) (failure : Failure)
    (missing : (compiler.resolver.resolve tree definition.result).1 = .error failure) :
    ((compiler.compile tree logger definition).1.1) =
      .error (.within ("recipe " ++ definition.id ++ ": result") failure) := by
  simp only [Compiler.compile]
  rw [missing]

end Alembic.Compile
