import Alembic.Recipe.Model
/-! # The healing draught -/

namespace Alembic.Sample

/-- A JSON recipe table holding the healing draught. -/
def healingDraughtTable : String :=
  "\x7b\n" ++
  "  \"recipes\": [\n" ++
  "    \x7b\n" ++
  "      \"recipe_id\": \"healing_draught\",\n" ++
  "      \"result\": \"healing_potion\",\n" ++
  "      \"display_name\": \"Healing Draught\",\n" ++
  "      \"tier\": 1,\n" ++
  "      \"required_alchemy_level\": 2,\n" ++
  "      \"xp_reward\": 10,\n" ++
  "      \"result_count\": 1,\n" ++
  "      \"base_potency\": 5,\n" ++
  "      \"potency_per_level\": 1.5,\n" ++
  "      \"base_liquid\": \x7b\"id\": \"water\"\x7d,\n" ++
  "      \"primary_ingredient\": \x7b\"id\": \"red_herb\", \"count\": 2\x7d,\n" ++
  "      \"catalyst\": null\n" ++
  "    \x7d\n" ++
  "  ]\n" ++
  "\x7d"

/-- The resource the healing draught compiles to. -/
def healingDraughtResource : String :=
  "[gd_resource type=\"Resource\" script_class=\"PotionRecipeData\" load_steps=5 format=3]\n" ++
  "\n" ++
  "[ext_resource type=\"Script\" path=\"res://scripts/data/potion_recipe_data.gd\" id=\"1\"]\n" ++
  "[ext_resource type=\"Resource\" path=\"res://resources/potions/healing_potion.tres\" id=\"2\"]\n" ++
  "[ext_resource type=\"Resource\" path=\"res://resources/items/water.tres\" id=\"3\"]\n" ++
  "[ext_resource type=\"Resource\" path=\"res://resources/items/red_herb.tres\" id=\"4\"]\n" ++
  "\n" ++
  "[resource]\n" ++
  "script = ExtResource(\"1\")\n" ++
  "id = \"healing_draught\"\n" ++
  "display_name = \"Healing Draught\"\n" ++
  "result = ExtResource(\"2\")\n" ++
  "result_count = 1\n" ++
  "ingredients = [ExtResource(\"3\"), ExtResource(\"4\")]\n" ++
  "ingredient_counts = [1, 2]\n" ++
  "tier = 1\n" ++
  "required_alchemy_level = 2\n" ++
  "base_potency = 5\n" ++
  "potency_per_level = 1.5\n" ++
  "xp_reward = 10\n" ++
  "base_liquid = ExtResource(\"3\")\n" ++
  "primary_ingredient = ExtResource(\"4\")\n" ++
  "secondary_ingredient = null\n" ++
  "catalyst = null\n"

/-- The potions the example needs. -/
def healingDraughtPotions : List String := ["healing_potion"]

/-- The items the example needs. -/
def healingDraughtItems : List String := ["water", "red_herb"]

end Alembic.Sample
