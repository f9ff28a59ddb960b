import Alembic.Recipe.Model
import Alembic.Table.Loader
/-! # Reading recipes from table records -/

namespace Alembic.Recipe

open Table

/-- The keys every record must carry. -/
def requiredFields : List String :=
  ["recipe_id", "result", "display_name", "tier", "required_alchemy_level", "xp_reward",
   "result_count", "base_potency", "potency_per_level", "base_liquid", "primary_ingredient",
   "catalyst"]

/-- The key of the open ingredient list. -/
def additionalField : String := "additional_ingredients"

/-- The value of a key of a record, when it has one. -/
def field? (value : Value) (name : String) : Option Value :=
  if value.isNull ∨ !value.isKnown then none else value.lookup name

/-- How a record is named in messages: its recipe id when that is a non-empty string, its
position from 1 otherwise. -/
def label (record : Record) : String :=
  match field? record.value "recipe_id" with
  | some (.string text) => if text.isEmpty then "#" ++ toString (record.index + 1) else text
  | _ => "#" ++ toString (record.index + 1)

/-- The first required key the record lacks, as a failure. -/
def validate (record : Record) : Except Failure Unit :=
  match requiredFields.find? fun name => (field? record.value name).isNone with
  | some name => .error (.missingField (label record) name "")
  | none => .ok ()

/-- The reason a value is not a string. -/
def asString : Value → Except String String
  | .string text => .ok text
  | _ => .error "string value is required"

/-- The message of a number outside 64-bit integers. -/
def wholeNumberMessage : String :=
  "value must be a whole number, between -9223372036854775808 and 9223372036854775807"

def asInt : Value → Except String Int
  | .number value =>
    match value.toInt64? with
    | some whole => .ok whole
    | none => .error wholeNumberMessage
  | _ => .error "number value is required"

/-- The largest double, written with six decimals. -/
def largestDoubleText : String :=
  toString ((Nat.pow 2 53 - 1) * Nat.pow 2 971 : Nat) ++ ".000000"

def asReal : Value → Except String Float
  | .number value =>
    match value with
    | .infinite negative => .ok (Double.infinity negative)
    | .finite .. =>
      let double := value.toDouble
      if double.isInf then
        .error ("value must be between -" ++ largestDoubleText ++ " and " ++ largestDoubleText ++
          " inclusive")
      else .ok double
  | _ => .error "number value is required"

/-- Reads a field that is present: null is refused, then the conversion decides. -/
def scalar {α : Type} (recipe name : String) (read : Value → Except String α) (value : Value) :
    Except Failure α :=
  if value.isNull then .error (.invalidField recipe name "must not be null")
  else
    match read value with
    | .ok result => .ok result
    | .error reason => .error (.invalidField recipe name reason)

/-- Reads a required scalar field of a record. -/
def requiredScalar {α : Type} [Inhabited α] (recipe : String) (record : Value) (name : String)
    (read : Value → Except String α) : Except Failure α :=
  match field? record name with
  | some value => scalar recipe name read value
  | none => .error (.missingField recipe name "")

/-- Whether a structure has no entries. -/
def isEmptyStructure (value : Value) : Bool := value.length = 0

/-- Reads an ingredient; `none` when the slot is unused. -/
def payload (recipe : String) (value : Value) (name tag : String) :
    Except Failure (Option Payload) :=
  if value.isNull then .ok none
  else if !value.isObjectLike then
    .error (.invalidField recipe name ("must be an object, got " ++ value.type.friendlyName))
  else if isEmptyStructure value then .ok none
  else
    match field? value "id" with
    | none => .error (.missingField recipe "id" tag)
    | some idValue =>
      if idValue.isNull then .error (.missingField recipe "id" tag)
      else
        let idResult : Except Failure String :=
          match scalar recipe (name ++ ".id") asString idValue with
          | .ok id => if id.isEmpty then .error (.missingField recipe "id" tag) else .ok id
          | .error failure => .error failure
        let countResult : Except Failure Int :=
          match field? value "count" with
          | some countValue =>
            if countValue.isNull then .ok 1
            else
              match scalar recipe (name ++ ".count") asInt countValue with
              | .ok count =>
                if count < 1 then
                  .error (.invalidField recipe (name ++ ".count")
                    ("must be at least 1, got " ++ toString count))
                else .ok count
              | .error failure => .error failure
          | none => .ok 1
        match idResult, countResult with
        | .error failure, _ => .error failure
        | .ok _, .error failure => .error failure
        | .ok id, .ok count => .ok (some ⟨id, count, tag⟩)

/-- Reads a fixed slot; an absent key leaves it unused. -/
def slotOf (recipe : String) (record : Value) (role : Role) : Except Failure (Option Payload) :=
  match field? record role.field with
  | some value => payload recipe value role.field role.tag
  | none => .ok none

/-- Reads the additional ingredients in order, skipping unused entries. -/
def additionalOf (recipe : String) (record : Value) : Except Failure (List Payload) :=
  match field? record additionalField with
  | none => .ok []
  | some value =>
    if value.isNull then .ok []
    else if !value.isSequence then
      .error (.invalidField recipe additionalField ("must be a list, got " ++ value.type.friendlyName))
    else
      value.elements.zipIdx.foldlM (fun found (item, index) => do
        let name := additionalField ++ "[" ++ toString index ++ "]"
        let tag ← match field? item "role" with
          | some roleValue =>
            if roleValue.isNull then pure (Role.additional.tag)
            else scalar recipe (name ++ ".role") asString roleValue
          | none => pure (Role.additional.tag)
        match ← payload recipe item name tag with
        | some entry => pure (found ++ [entry])
        | none => pure found) []

/-- Why a recipe id cannot name a file, if it cannot. -/
def recipeIdProblem (id : String) : Option String :=
  if id.isEmpty then some "must not be empty"
  else if id.toList.contains '/' ∨ id.toList.contains '\\' then some "must not contain path separators"
  else if id = "." ∨ id = ".." then some "must not be a relative path element"
  else none

/-- The definition a record holds. -/
def decode (record : Record) : Except Failure Definition := do
  validate record
  let recipe := label record
  let value := record.value
  let id ← requiredScalar recipe value "recipe_id" asString
  let displayName ← requiredScalar recipe value "display_name" asString
  let result ← requiredScalar recipe value "result" asString
  let resultCount ← requiredScalar recipe value "result_count" asInt
  let tier ← requiredScalar recipe value "tier" asInt
  let requiredAlchemyLevel ← requiredScalar recipe value "required_alchemy_level" asInt
  let basePotency ← requiredScalar recipe value "base_potency" asReal
  let potencyPerLevel ← requiredScalar recipe value "potency_per_level" asReal
  let xpReward ← requiredScalar recipe value "xp_reward" asInt
  let baseLiquid ← slotOf recipe value .base
  let primaryIngredient ← slotOf recipe value .primary
  let secondaryIngredient ← slotOf recipe value .secondary
  let catalyst ← slotOf recipe value .catalyst
  let additional ← additionalOf recipe value
  if let some reason := recipeIdProblem id then
    throw (.invalidField recipe "recipe_id" reason)
  if result.isEmpty then throw (.missingField recipe "result" "")
  return { id, displayName, result, resultCount, tier, requiredAlchemyLevel, basePotency,
           potencyPerLevel, xpReward, baseLiquid, primaryIngredient, secondaryIngredient,
           catalyst, additional }

end Alembic.Recipe
