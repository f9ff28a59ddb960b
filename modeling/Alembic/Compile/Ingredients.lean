import Alembic.Recipe.Model
import Alembic.Resolve.Resolver
/-! # Assembling the ingredients of a recipe -/

namespace Alembic.Compile

open Recipe

/-- The settings of the documents a compiler writes. -/
structure Options where
  scriptPath : String
  scriptClass : String
  /-- The resource root every ingredient must lie under. -/
  ingredientNamespace : String
  deriving Repr, Inhabited

/-- The settings for potion recipe data. -/
def defaultOptions : Options :=
  { scriptPath := "res://scripts/data/potion_recipe_data.gd",
    scriptClass := "PotionRecipeData",
    ingredientNamespace := Resolve.itemsNamespace }

/-- A compiler: its resolver and its settings. -/
structure Compiler where
  resolver : Resolve.Resolver
  options : Options
  deriving Inhabited

/-- The ingredients gathered so far and the fixed roles they bound. -/
structure Gathered where
  bound : List Role := []
  entries : List Entry := []

/-- Every ingredient of a recipe with its role, fixed slots first. -/
def placements (definition : Definition) : List (Role × Payload) :=
  let fixed := [(Role.base, definition.baseLiquid), (.primary, definition.primaryIngredient),
    (.secondary, definition.secondaryIngredient), (.catalyst, definition.catalyst)]
  (fixed.filterMap fun (role, slot) => slot.map fun payload => (role, payload)) ++
    definition.additional.map fun payload => (parseRole payload.tag, payload)

/-- Adds one ingredient in its role. -/
def Compiler.place (compiler : Compiler) (tree : Files.Tree) (recipe : String) (gathered : Gathered)
    (role : Role) (payload : Payload) : Except Failure Gathered × Compiler :=
  if role.isFixed && gathered.bound.contains role then
    (.error (.invalidField recipe role.field
      ("slot is already bound, additional ingredient " ++ Text.quote payload.id ++
        " cannot claim it")), compiler)
  else
    let bound := if role.isFixed then gathered.bound ++ [role] else gathered.bound
    if payload.id.isEmpty then (.error (.missingField recipe "id" payload.tag), compiler)
    else
      let (found, resolver) := compiler.resolver.resolve tree payload.id
      let compiler := { compiler with resolver }
      match found with
      | .error failure =>
        (.error (.within ("recipe " ++ recipe ++ ": " ++ payload.tag ++ " ingredient") failure), compiler)
      | .ok path =>
        match Resolve.requireNamespace path compiler.options.ingredientNamespace recipe payload.tag with
        | .error failure => (.error failure, compiler)
        | .ok () =>
          let count := if payload.count = 0 then 1 else payload.count
          (.ok { bound, entries := gathered.entries ++ [⟨path, count, role, payload.tag⟩] }, compiler)

/-- Adds ingredients in order, stopping at the first that fails. -/
def Compiler.placeAll (tree : Files.Tree) (recipe : String) :
    Compiler → Gathered → List (Role × Payload) → Except Failure Gathered × Compiler
  | compiler, gathered, [] => (.ok gathered, compiler)
  | compiler, gathered, (role, payload) :: rest =>
    match compiler.place tree recipe gathered role payload with
    | (.ok next, compiler) => Compiler.placeAll tree recipe compiler next rest
    | (.error failure, compiler) => (.error failure, compiler)

/-- The resolved ingredients of a recipe, in the order they are written. -/
def Compiler.assemble (compiler : Compiler) (tree : Files.Tree) (definition : Definition) :
    Except Failure (List Entry) × Compiler :=
  match Compiler.placeAll tree definition.id compiler {} (placements definition) with
  | (.error failure, compiler) => (.error failure, compiler)
  | (.ok gathered, compiler) =>
    if gathered.entries.isEmpty then (.error (.emptyIngredients definition.id), compiler)
    else (.ok gathered.entries, compiler)

end Alembic.Compile
