import Alembic.Failure
/-! # Recipes -/

namespace Alembic.Recipe

/-- The part of a recipe an ingredient fills. -/
inductive Role where
  | base
  | primary
  | secondary
  | catalyst
  | additional
  /-- A code that names no role. -/
  | unknown (code : Int)
  deriving Repr, BEq, DecidableEq, Inhabited

namespace Role

/-- The roles with a slot of their own, in the order they are processed. -/
def fixedRoles : List Role := [.base, .primary, .secondary, .catalyst]

/-- The role with a given code: the fixed roles are 0 to 3, the open list is 4. -/
def ofCode : Int → Role
  | 0 => .base
  | 1 => .primary
  | 2 => .secondary
  | 3 => .catalyst
  | 4 => .additional
  | code => .unknown code

def code : Role → Int
  | .base => 0
  | .primary => 1
  | .secondary => 2
  | .catalyst => 3
  | .additional => 4
  | .unknown code => code

/-- The tag the recipe table uses for the role. -/
def tag : Role → String
  | .base => "base"
  | .primary => "primary"
  | .secondary => "secondary"
  | .catalyst => "catalyst"
  | .additional => "additional"
  | .unknown code => "Role(" ++ toString code ++ ")"

/-- The table and resource field a fixed role is bound to, empty for the others. -/
def field : Role → String
  | .base => "base_liquid"
  | .primary => "primary_ingredient"
  | .secondary => "secondary_ingredient"
  | .catalyst => "catalyst"
  | _ => ""

def isFixed (role : Role) : Bool := !role.field.isEmpty

end Role

/-- The role a tag names. A tag that names no fixed slot is an additional ingredient. -/
def parseRole (tag : String) : Role :=
  (Role.fixedRoles.find? fun role => role.tag == tag).getD .additional

theorem parseRole_tag (role : Role) (fixed : role ∈ Role.fixedRoles) :
    parseRole role.tag = role := by
  simp only [Role.fixedRoles, List.mem_cons, List.not_mem_nil, or_false] at fixed
  rcases fixed with rfl | rfl | rfl | rfl <;> rfl

/-- One ingredient as the table writes it. -/
structure Payload where
  id : String
  count : Int
  /-- The declared role tag; a fixed slot carries its own role name. -/
  tag : String
  deriving Repr, BEq, Inhabited

/-- One recipe of the table. -/
structure Definition where
  id : String
  displayName : String
  result : String
  resultCount : Int
  tier : Int
  requiredAlchemyLevel : Int
  basePotency : Float
  potencyPerLevel : Float
  xpReward : Int
  baseLiquid : Option Payload
  primaryIngredient : Option Payload
  secondaryIngredient : Option Payload
  catalyst : Option Payload
  /-- The open ingredient list, in table order. -/
  additional : List Payload
  deriving Inhabited

/-- Asking for the slot of a role that has none. -/
inductive SlotFault where
  | noFixedSlot
  | unknownRole (code : Int)
  deriving Repr, BEq

def SlotFault.message : SlotFault → String
  | .noFixedSlot => "recipe: additional ingredients have no fixed slot"
  | .unknownRole code => "recipe: unknown role " ++ toString code

namespace Definition

/-- The slot of a fixed role. -/
def slot (definition : Definition) : Role → Except SlotFault (Option Payload)
  | .base => .ok definition.baseLiquid
  | .primary => .ok definition.primaryIngredient
  | .secondary => .ok definition.secondaryIngredient
  | .catalyst => .ok definition.catalyst
  | .additional => .error .noFixedSlot
  | .unknown code => .error (.unknownRole code)

end Definition

/-- A resolved ingredient, ready to be written. -/
structure Entry where
  path : String
  count : Int
  role : Role
  tag : String
  deriving Repr, BEq, Inhabited

end Alembic.Recipe
