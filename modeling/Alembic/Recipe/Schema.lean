import Alembic.Recipe.Decode
import Alembic.Text.JsonDoc
/-! # The JSON Schema of a recipe table -/

namespace Alembic.Recipe

open Text

/-- A property of an object schema: its name, its schema and whether it is required. -/
structure SchemaField where
  name : String
  keywords : List (String × JsonDoc)
  required : Bool := true

/-- The schema of a value of one JSON type. -/
def typed (name : String) : List (String × JsonDoc) := [("type", .text name)]

/-- A reference to a named definition. -/
def definitionRef (name : String) : JsonDoc := .object [("$ref", .text ("#/$defs/" ++ name))]

/-- The schema of an object with the given properties. -/
def objectSchema (fields : List SchemaField) : JsonDoc :=
  .object [("properties", .object (fields.map fun field => (field.name, .object field.keywords))),
    ("type", .text "object"),
    ("required", .array ((fields.filter (·.required)).map fun field => .text field.name))]

/-- A payload, null, or an empty object. -/
def slotChoices : JsonDoc :=
  .array [definitionRef "PayloadDocument", .object (typed "null"),
    .object [("additionalProperties", .flag false), ("type", .text "object")]]

/-- An ingredient slot with its description. -/
def slotField (name description : String) (required : Bool := true) : SchemaField :=
  { name, keywords := [("oneOf", slotChoices), ("description", .text description)], required }

/-- The properties of an ingredient payload. -/
def payloadFields : List SchemaField :=
  [{ name := "id", keywords := typed "string" ++
      [("minLength", .int 1), ("description", .text "Identifier of an item resource")] },
   { name := "count", required := false,
     keywords := typed "integer" ++ [("minimum", .int 1), ("default", .int 1)] },
   { name := "role", required := false,
     keywords := typed "string" ++
      [("description", .text "Role tag for additional ingredients"),
       ("default", .text Role.additional.tag)] }]

/-- The properties of a recipe. -/
def recipeFields : List SchemaField :=
  [{ name := "recipe_id", keywords := typed "string" ++
      [("minLength", .int 1), ("title", .text "Recipe id"),
       ("description", .text "Unique id; also the output file name")] },
   { name := "display_name", keywords := typed "string" },
   { name := "result", keywords := typed "string" ++
      [("description", .text "Identifier of the produced potion or item resource")] },
   { name := "result_count", keywords := typed "integer" },
   { name := "tier", keywords := typed "integer" },
   { name := "required_alchemy_level", keywords := typed "integer" },
   { name := "base_potency", keywords := typed "number" },
   { name := "potency_per_level", keywords := typed "number" },
   { name := "xp_reward", keywords := typed "integer" },
   slotField Role.base.field "Base liquid slot; null when unused",
   slotField Role.primary.field "Primary ingredient slot; null when unused",
   slotField Role.secondary.field "Secondary ingredient slot; null when unused" false,
   slotField Role.catalyst.field "Catalyst slot; null when unused",
   { name := additionalField, required := false,
     keywords := [("oneOf", .array [.object [("items", .object [("oneOf", slotChoices)]),
        ("type", .text "array")], .object (typed "null")]),
       ("description", .text "Extra ingredients in emission order")] }]

/-- The properties of a table document. -/
def tableFields : List SchemaField :=
  [{ name := "recipes", keywords := [("items", definitionRef "RecipeDocument"),
      ("type", .text "array"), ("title", .text "Recipes"),
      ("description", .text "Recipe definitions compiled one resource each")] }]

/-- The schema document. -/
def schemaDoc : JsonDoc :=
  .object [("$schema", .text "https://json-schema.org/draft/2020-12/schema"),
    ("$id", .text "https://github.com/specialistvlad/recipegen/internal/recipe/table-document"),
    ("$ref", .text "#/$defs/TableDocument"),
    ("$defs", .object [("PayloadDocument", objectSchema payloadFields),
      ("RecipeDocument", objectSchema recipeFields),
      ("TableDocument", objectSchema tableFields)])]

/-- The text of the schema, indented by two spaces. -/
def schemaText : String := schemaDoc.render 0

end Alembic.Recipe
