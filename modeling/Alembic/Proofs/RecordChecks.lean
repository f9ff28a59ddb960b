import Alembic.Recipe.Decode
/-! # The order of the record checks -/

namespace Alembic.Recipe

open Table

/-- A value decided by a check: the check's failure, or the value. -/
def decided {α : Type} (problem : Option Failure) (value : α) : Except Failure α :=
  match problem with
  | some failure => .error failure
  | none => .ok value

/-- The first failure among checks taken in order. -/
def firstFailure (checks : List (Option Failure)) : Option Failure := checks.foldr Option.or none

/-- The value a field converts to, or a fallback when it is absent, null or refused. -/
def readField {α : Type} (read : Value → Except String α) (fallback : α) (record : Value) (name : String) : α :=
  match field? record name with
  | some value => if value.isNull then fallback else (read value).toOption.getD fallback
  | none => fallback

/-- What is wrong with a scalar field: absent, null, or refused by its conversion. -/
def scalarProblem {α : Type} (read : Value → Except String α) (recipe : String) (record : Value) (name : String) :
    Option Failure :=
  match field? record name with
  | none => some (.missingField recipe name "")
  | some value =>
    if value.isNull then some (.invalidField recipe name "must not be null")
    else
      match read value with
      | .error reason => some (.invalidField recipe name reason)
      | .ok _ => none

/-- Whether an ingredient object stands for an unused slot: null, or an object or map without
entries. -/
def unused (item : Value) : Bool := item.isNull || (item.isObjectLike && item.length == 0)

/-- What is wrong with the id of an ingredient object: absent, null or empty, or not a string. -/
def ingredientIdProblem (recipe name tag : String) (item : Value) : Option Failure :=
  match field? item "id" with
  | none => some (.missingField recipe "id" tag)
  | some id =>
    if id.isNull then some (.missingField recipe "id" tag)
    else
      match asString id with
      | .error reason => some (.invalidField recipe (name ++ ".id") reason)
      | .ok text => if text.isEmpty then some (.missingField recipe "id" tag) else none

/-- What is wrong with the count of an ingredient object: a present, non-null count that is not a
whole number, or is below 1. -/
def countProblem (recipe name : String) (item : Value) : Option Failure :=
  match field? item "count" with
  | none => none
  | some count =>
    if count.isNull then none
    else
      match asInt count with
      | .error reason => some (.invalidField recipe (name ++ ".count") reason)
      | .ok whole =>
        if whole < 1 then some (.invalidField recipe (name ++ ".count") ("must be at least 1, got " ++ toString whole))
        else none

/-- What is wrong with an ingredient object: not an object nor unused, or its id, or its count. -/
def ingredientProblem (recipe name tag : String) (item : Value) : Option Failure :=
  if unused item then none
  else if !item.isObjectLike then
    some (.invalidField recipe name ("must be an object, got " ++ item.type.friendlyName))
  else (ingredientIdProblem recipe name tag item).or (countProblem recipe name item)

/-- The ingredient an object holds, unless it is unused: its id, its count (1 when it writes
none) and the tag it is read with. -/
def ingredientOf (tag : String) (item : Value) : Option Payload :=
  if unused item then none
  else some ⟨readField asString "" item "id", readField asInt 1 item "count", tag⟩

/-- What is wrong with the fixed slot of a role; an absent key is an unused slot. -/
def slotProblem (recipe : String) (record : Value) (role : Role) : Option Failure :=
  (field? record role.field).bind (ingredientProblem recipe role.field role.tag)

/-- The ingredient in the fixed slot of a role. -/
def slotIngredient (record : Value) (role : Role) : Option Payload :=
  (field? record role.field).bind (ingredientOf role.tag)

/-- How an entry of the open list is named in messages. -/
def entryName (index : Nat) : String := additionalField ++ "[" ++ toString index ++ "]"

/-- The tag of an entry of the open list: the role it names, `additional` when it names none. -/
def tagOf (item : Value) : String := readField asString Role.additional.tag item "role"

/-- What is wrong with the role an entry of the open list names: a non-null role that is not a
string. -/
def roleProblem (recipe name : String) (item : Value) : Option Failure :=
  match field? item "role" with
  | none => none
  | some role =>
    if role.isNull then none
    else
      match asString role with
      | .error reason => some (.invalidField recipe (name ++ ".role") reason)
      | .ok _ => none

/-- What is wrong with one entry of the open list: its role, then the entry as an ingredient
object. -/
def entryProblem (recipe : String) (entry : Value × Nat) : Option Failure :=
  (roleProblem recipe (entryName entry.2) entry.1).or
    (ingredientProblem recipe (entryName entry.2) (tagOf entry.1) entry.1)

/-- What is wrong with the open list: present, not null and not a list, or the first entry that
is wrong. -/
def additionalProblem (recipe : String) (record : Value) : Option Failure :=
  match field? record additionalField with
  | none => none
  | some list =>
    if list.isNull then none
    else if !list.isSequence then
      some (.invalidField recipe additionalField ("must be a list, got " ++ list.type.friendlyName))
    else firstFailure (list.elements.zipIdx.map (entryProblem recipe))

/-- The ingredients of the open list, in order, each with its tag; unused entries are skipped. -/
def additionalIngredients (record : Value) : List Payload :=
  (((field? record additionalField).map Value.elements).getD []).filterMap fun item => ingredientOf (tagOf item) item

/-- Every check of a record, in the order they are made. -/
def recordProblems (record : Record) : List (Option Failure) :=
  let recipe := label record
  let value := record.value
  [(requiredFields.find? fun name => (field? value name).isNone).map fun name => .missingField recipe name "",
   scalarProblem asString recipe value "recipe_id",
   scalarProblem asString recipe value "display_name",
   scalarProblem asString recipe value "result",
   scalarProblem asInt recipe value "result_count",
   scalarProblem asInt recipe value "tier",
   scalarProblem asInt recipe value "required_alchemy_level",
   scalarProblem asReal recipe value "base_potency",
   scalarProblem asReal recipe value "potency_per_level",
   scalarProblem asInt recipe value "xp_reward",
   slotProblem recipe value .base,
   slotProblem recipe value .primary,
   slotProblem recipe value .secondary,
   slotProblem recipe value .catalyst,
   additionalProblem recipe value,
   (recipeIdProblem (readField asString "" value "recipe_id")).map (.invalidField recipe "recipe_id"),
   if (readField asString "" value "result").isEmpty then some (.missingField recipe "result" "") else none]

/-- The recipe the fields of a record hold. -/
def recordDefinition (record : Value) : Definition :=
  { id := readField asString "" record "recipe_id",
    displayName := readField asString "" record "display_name",
    result := readField asString "" record "result",
    resultCount := readField asInt 0 record "result_count",
    tier := readField asInt 0 record "tier",
    requiredAlchemyLevel := readField asInt 0 record "required_alchemy_level",
    basePotency := readField asReal 0 record "base_potency",
    potencyPerLevel := readField asReal 0 record "potency_per_level",
    xpReward := readField asInt 0 record "xp_reward",
    baseLiquid := slotIngredient record .base,
    primaryIngredient := slotIngredient record .primary,
    secondaryIngredient := slotIngredient record .secondary,
    catalyst := slotIngredient record .catalyst,
    additional := additionalIngredients record }

/-- A record read check by check: the first failing check, or the recipe its fields hold. -/
def checkedDecode (record : Record) : Except Failure Definition :=
  decided (firstFailure (recordProblems record)) (recordDefinition record.value)

@[simp] theorem decided_eq_ok {α : Type} {problem : Option Failure} {value result : α} :
    decided problem value = .ok result ↔ problem = none ∧ value = result := by
  cases problem <;> simp [decided]

@[simp] theorem decided_eq_error {α : Type} {problem : Option Failure} {value : α} {failure : Failure} :
    decided problem value = .error failure ↔ problem = some failure := by
  cases problem <;> simp [decided]

/-- No check fails exactly when every check passes. -/
theorem firstFailure_eq_none {checks : List (Option Failure)} :
    firstFailure checks = none ↔ ∀ check ∈ checks, check = none := by
  induction checks with
  | nil => simp [firstFailure]
  | cons check rest ih =>
    simp only [firstFailure, List.foldr_cons, List.mem_cons, forall_eq_or_imp] at ih ⊢
    rw [Option.or_eq_none_iff, ih]

/-- The first failure is the failure of one of the checks. -/
theorem firstFailure_eq_some {checks : List (Option Failure)} {failure : Failure}
    (failed : firstFailure checks = some failure) : some failure ∈ checks := by
  induction checks with
  | nil => simp [firstFailure] at failed
  | cons check rest ih =>
    simp only [firstFailure, List.foldr_cons] at failed ih
    cases check with
    | none => exact List.mem_cons_of_mem _ (ih (by simpa using failed))
    | some first =>
      simp only [Option.some_or, Option.some.injEq] at failed
      rw [failed]
      exact List.mem_cons_self

/-- Going on after a check runs the rest on the value, unless the check failed. -/
theorem bind_decided {α β : Type} (problem : Option Failure) (value : α) (next : α → Except Failure β) :
    (decided problem value >>= next) = problem.elim (next value) .error := by
  cases problem <;> rfl

theorem decided_firstFailure_cons {α : Type} (problem : Option Failure) (rest : List (Option Failure))
    (value : α) :
    decided (firstFailure (problem :: rest)) value = problem.elim (decided (firstFailure rest) value) .error := by
  cases problem <;> rfl

theorem validate_decided (record : Record) :
    validate record =
      decided ((requiredFields.find? fun name => (field? record.value name).isNone).map fun name =>
        .missingField (label record) name "") () := by
  unfold validate
  cases requiredFields.find? fun name => (field? record.value name).isNone <;> rfl

/-- Reading a required scalar is its check, and the value it converts to. -/
theorem requiredScalar_decided {α : Type} [Inhabited α] (fallback : α) (recipe : String) (record : Value)
    (name : String) (read : Value → Except String α) :
    requiredScalar recipe record name read = decided (scalarProblem read recipe record name) (readField read fallback record name) := by
  unfold requiredScalar scalar scalarProblem readField
  cases field? record name with
  | none => rfl
  | some value =>
    by_cases null : value.isNull = true
    · simp [null, decided]
    · cases converted : read value <;> simp [null, converted, decided, Except.toOption]

/-- Reading an ingredient object is its check, and the ingredient it holds. -/
theorem payload_decided (recipe : String) (item : Value) (name tag : String) :
    payload recipe item name tag = decided (ingredientProblem recipe name tag item) (ingredientOf tag item) := by
  unfold payload ingredientProblem ingredientOf
  by_cases null : item.isNull = true
  · simp [null, unused, decided]
  by_cases objectLike : item.isObjectLike = false
  · simp [null, objectLike, unused, decided]
  by_cases empty : isEmptyStructure item = true
  · have unusedItem : unused item = true := by simp_all [unused, isEmptyStructure]
    simp [null, objectLike, empty, unusedItem, decided]
  have usedItem : unused item = false := by simp_all [unused, isEmptyStructure]
  simp only [null, objectLike, empty, usedItem, Bool.false_eq_true, if_false, Bool.not_eq_true']
  -- the id is read first and decides before the count
  unfold ingredientIdProblem countProblem readField
  cases field? item "id" with
  | none => rfl
  | some id =>
    by_cases idNull : id.isNull = true
    · simp [idNull, decided]
    cases text : asString id with
    | error reason => simp [idNull, text, scalar, decided]
    | ok idText =>
      by_cases emptyId : idText.isEmpty = true
      · simp [idNull, text, emptyId, scalar, decided]
      cases field? item "count" with
      | none => simp [idNull, text, emptyId, scalar, decided, Except.toOption]
      | some count =>
        by_cases countNull : count.isNull = true
        · simp [idNull, text, emptyId, countNull, scalar, decided, Except.toOption]
        cases whole : asInt count with
        | error reason => simp [idNull, text, emptyId, countNull, whole, scalar, decided]
        | ok value =>
          by_cases small : value < 1 <;>
            simp [idNull, text, emptyId, countNull, whole, small, scalar, decided, Except.toOption]

theorem slotOf_decided (recipe : String) (record : Value) (role : Role) :
    slotOf recipe record role = decided (slotProblem recipe record role) (slotIngredient record role) := by
  unfold slotOf slotProblem slotIngredient
  cases field? record role.field with
  | none => rfl
  | some item => exact payload_decided recipe item role.field role.tag

/-- A fold whose every step is decided by a check of its item is decided by the first failing
check, and otherwise folds the values. -/
theorem foldlM_decided {β γ : Type} {step : β → γ → Except Failure β} {problem : γ → Option Failure}
    {add : β → γ → β} (stepDecided : ∀ acc item, step acc item = decided (problem item) (add acc item))
    (items : List γ) :
    ∀ start, items.foldlM step start = decided (firstFailure (items.map problem)) (items.foldl add start) := by
  induction items with
  | nil => intro start; rfl
  | cons item rest ih =>
    intro start
    rw [List.foldlM_cons, stepDecided, bind_decided, ih, List.map_cons, decided_firstFailure_cons]
    rfl

/-- Appending what each item holds, if anything, keeps the items that hold something. -/
theorem foldl_append_toList {β γ : Type} (ingredient : γ → Option β) (items : List γ) :
    ∀ start, items.foldl (fun acc item => acc ++ (ingredient item).toList) start = start ++ items.filterMap ingredient := by
  induction items with
  | nil => intro start; simp
  | cons item rest ih =>
    intro start
    rw [List.foldl_cons, ih]
    cases found : ingredient item <;> simp [found]

/-- Reading the open list is its check, and the ingredients of its used entries. -/
theorem additionalOf_decided (recipe : String) (record : Value) :
    additionalOf recipe record = decided (additionalProblem recipe record) (additionalIngredients record) := by
  unfold additionalOf additionalProblem additionalIngredients
  cases field? record additionalField with
  | none => rfl
  | some list =>
    by_cases null : list.isNull = true
    · cases list <;> simp_all [Value.isNull, Value.elements, decided]
    cases sequence : list.isSequence
    · simp [null, sequence, decided]
    simp only [null, sequence, Bool.false_eq_true, if_false, Bool.not_true, Option.map_some, Option.getD_some]
    rw [@foldlM_decided _ _ _ (entryProblem recipe)
      (fun found entry => found ++ (ingredientOf (tagOf entry.1) entry.1).toList)]
    · have skipped : (list.elements.zipIdx.filterMap fun entry => ingredientOf (tagOf entry.1) entry.1) =
          list.elements.filterMap fun item => ingredientOf (tagOf item) item := by
        conv => rhs; rw [← List.zipIdx_map_fst 0 list.elements]
        rw [List.filterMap_map]
        rfl
      rw [foldl_append_toList (fun entry : Value × Nat => ingredientOf (tagOf entry.1) entry.1), List.nil_append,
        skipped]
    · intro found entry
      obtain ⟨item, index⟩ := entry
      unfold entryProblem roleProblem tagOf readField entryName
      dsimp only
      cases field? item "role" with
      | none =>
        simp only [pure_bind, payload_decided, bind_decided, Option.none_or]
        cases ingredientProblem recipe (additionalField ++ "[" ++ toString index ++ "]") Role.additional.tag item <;>
          split <;> simp_all [decided, pure, Except.pure]
      | some role =>
        by_cases null : role.isNull = true
        · simp only [null, if_true, pure_bind, payload_decided, bind_decided, Option.none_or]
          cases ingredientProblem recipe (additionalField ++ "[" ++ toString index ++ "]") Role.additional.tag item <;>
            split <;> simp_all [decided, pure, Except.pure]
        · cases text : asString role with
          | error reason => simp [null, text, scalar, decided, bind, Except.bind]
          | ok tag =>
            simp only [null, text, scalar, Bool.false_eq_true, if_false, Except.toOption, Option.getD_some,
              Option.none_or]
            rw [show (Except.ok tag : Except Failure String) = pure tag from rfl, pure_bind, payload_decided,
              bind_decided]
            cases ingredientProblem recipe (additionalField ++ "[" ++ toString index ++ "]") tag item <;>
              split <;> simp_all [decided, pure, Except.pure]

/-- Reading a record runs its checks in order and reports the first that fails; when none
fails the recipe holds what the fields hold. -/
theorem decode_first_failing_check (record : Record) : decode record = checkedDecode record := by
  unfold decode checkedDecode recordProblems recordDefinition
  simp only [validate_decided, requiredScalar_decided "", requiredScalar_decided (0 : Int),
    requiredScalar_decided (0 : Float), slotOf_decided, additionalOf_decided, bind_decided,
    decided_firstFailure_cons]
  split
  · next reason unusable =>
    simp only [unusable, Option.map_some, Option.elim_some]
    rfl
  · next usable =>
    have named : recipeIdProblem (readField asString "" record.value "recipe_id") = none :=
      Option.eq_none_iff_forall_ne_some.mpr usable
    by_cases empty : (readField asString "" record.value "result").isEmpty = true
    · simp only [named, empty, Option.map_none, Option.elim_none, if_true, Option.elim_some]
      rfl
    · simp only [named, empty, Option.map_none, Option.elim_none, Bool.false_eq_true, if_false]
      rfl

end Alembic.Recipe
