import Mathlib.Data.List.Forall2
import Alembic.Recipe.Decode
import Alembic.Compile.Ingredients
import Alembic.Proofs.CleanPaths
import Alembic.Proofs.RecordChecks
/-! # What a decoded recipe holds -/

namespace Alembic.Recipe

open Table

theorem bind_eq_ok {ε α β : Type} (first : Except ε α) (next : α → Except ε β) (result : β) :
    first.bind next = .ok result ↔ ∃ value, first = .ok value ∧ next value = .ok result := by
  cases first <;> simp [Except.bind]

/-- Every step of a successful decoding, and the two checks after them. -/
theorem decode_eq_ok {record : Record} {definition : Definition} (decoded : decode record = .ok definition) :
    validate record = .ok () ∧
      requiredScalar (label record) record.value "recipe_id" asString = .ok definition.id ∧
      requiredScalar (label record) record.value "display_name" asString = .ok definition.displayName ∧
      requiredScalar (label record) record.value "result" asString = .ok definition.result ∧
      requiredScalar (label record) record.value "result_count" asInt = .ok definition.resultCount ∧
      requiredScalar (label record) record.value "tier" asInt = .ok definition.tier ∧
      requiredScalar (label record) record.value "required_alchemy_level" asInt =
        .ok definition.requiredAlchemyLevel ∧
      requiredScalar (label record) record.value "base_potency" asReal = .ok definition.basePotency ∧
      requiredScalar (label record) record.value "potency_per_level" asReal = .ok definition.potencyPerLevel ∧
      requiredScalar (label record) record.value "xp_reward" asInt = .ok definition.xpReward ∧
      slotOf (label record) record.value .base = .ok definition.baseLiquid ∧
      slotOf (label record) record.value .primary = .ok definition.primaryIngredient ∧
      slotOf (label record) record.value .secondary = .ok definition.secondaryIngredient ∧
      slotOf (label record) record.value .catalyst = .ok definition.catalyst ∧
      additionalOf (label record) record.value = .ok definition.additional ∧
      recipeIdProblem definition.id = none ∧ definition.result ≠ "" := by
  simp only [decode, bind, bind_eq_ok] at decoded
  obtain ⟨_, validated, id, idRead, displayName, nameRead, result, resultRead, resultCount, countRead, tier,
    tierRead, level, levelRead, potency, potencyRead, perLevel, perLevelRead, xp, xpRead, base, baseRead, primary,
    primaryRead, secondary, secondaryRead, catalyst, catalystRead, additional, additionalRead, decoded⟩ := decoded
  split at decoded
  · simp [throw, throwThe, MonadExceptOf.throw, Except.bind] at decoded
  · next fileName =>
    split at decoded
    · simp [throw, throwThe, MonadExceptOf.throw, Except.bind] at decoded
    · next named =>
      simp only [pure, Except.pure, Except.ok.injEq] at decoded
      subst decoded
      refine ⟨validated, idRead, nameRead, resultRead, countRead, tierRead, levelRead, potencyRead, perLevelRead,
        xpRead, baseRead, primaryRead, secondaryRead, catalystRead, additionalRead, ?_, by simpa using named⟩
      cases problem : recipeIdProblem id with
      | none => rfl
      | some reason => exact absurd problem (fileName reason)

/-- An id that passes the id checks names a resource file directly inside a directory. -/
theorem plain_of_recipeIdProblem {id : String} (valid : recipeIdProblem id = none) : Path.Plain (id ++ ".tres") := by
  unfold recipeIdProblem at valid
  split at valid
  · cases valid
  · next named =>
    split at valid
    · cases valid
    · next noSeparator =>
      -- the name is longer than `.` and `..`, and only its id could hold a separator
      have longer : 5 ≤ (id ++ ".tres").length := by
        rw [String.length_append, show ".tres".length = 5 from rfl]
        omega
      refine ⟨fun empty => ?_, ?_, fun here => ?_, fun climb => ?_⟩
      · rw [empty] at longer
        exact absurd longer (by decide)
      · simp only [List.contains_iff_mem, not_or] at noSeparator
        simp [noSeparator.1]
      · rw [here] at longer
        exact absurd longer (by decide)
      · rw [climb] at longer
        exact absurd longer (by decide)

/-- A decoded recipe's id names a resource file directly inside a directory. -/
theorem plain_resourceName {record : Record} {definition : Definition} (decoded : decode record = .ok definition) :
    Path.Plain (definition.id ++ ".tres") :=
  plain_of_recipeIdProblem (decode_eq_ok decoded).2.2.2.2.2.2.2.2.2.2.2.2.2.2.2.1

/-! ## The ingredients a table writes -/

/-- An ingredient object is used unless it is null or empty. -/
def used (item : Value) : Bool := !item.isNull && !isEmptyStructure item

/-- The count an ingredient object writes: its whole number, or 1 when it writes none or null. -/
def writtenCount (item : Value) : Option Int :=
  match field? item "count" with
  | none => some 1
  | some (.null _) => some 1
  | some (.number count) => count.toInt64?
  | some _ => none

/-- The used ingredient objects of a record: the fixed slots in order, then the additional
ingredients in order. -/
def writtenIngredients (record : Value) : List Value :=
  (Role.fixedRoles.flatMap fun role => ((field? record role.field).filter used).toList) ++
    (((field? record additionalField).map Value.elements).getD []).filter used

/-- A decoded ingredient of an object the table writes: its id is not empty, and its count is the
one the object writes, at least 1. -/
structure Written (item : Value) (entry : Payload) : Prop where
  named : entry.id ≠ ""
  positive : 1 ≤ entry.count
  counted : writtenCount item = some entry.count

theorem asInt_eq_ok {value : Value} {whole : Int} (read : asInt value = .ok whole) :
    ∃ number, value = .number number ∧ number.toInt64? = some whole := by
  unfold asInt at read
  split at read
  · next number =>
    split at read
    · next fits =>
      cases read
      exact ⟨number, rfl, fits⟩
    · cases read
  · cases read

/-- The unused objects of the checks are not used, and an object or map that is not unused is. -/
theorem used_eq_false_of_unused {item : Value} (skipped : unused item = true) : used item = false := by
  cases item <;> simp_all [used, unused, isEmptyStructure, Value.isNull, Value.isObjectLike]

theorem used_of_objectLike {item : Value} (objectLike : item.isObjectLike = true) (kept : unused item = false) :
    used item = true := by
  cases item <;> simp_all [used, unused, isEmptyStructure, Value.isNull, Value.isObjectLike]

/-- An id that passes its check is not empty. -/
theorem readField_id_ne_empty {recipe name tag : String} {item : Value}
    (checked : ingredientIdProblem recipe name tag item = none) : readField asString "" item "id" ≠ "" := by
  unfold ingredientIdProblem at checked
  unfold readField
  cases present : field? item "id" with
  | none => simp [present] at checked
  | some id =>
    rw [present] at checked
    by_cases null : id.isNull = true
    · simp [null] at checked
    cases read : asString id with
    | error reason => simp [null, read] at checked
    | ok text => simpa [null, read, Except.toOption] using checked

/-- A count that passes its check is the count the object writes, at least 1. -/
theorem writtenCount_readField {recipe name : String} {item : Value} (checked : countProblem recipe name item = none) :
    writtenCount item = some (readField asInt 1 item "count") ∧ 1 ≤ readField asInt 1 item "count" := by
  unfold countProblem at checked
  unfold writtenCount readField
  cases present : field? item "count" with
  | none => simp
  | some count =>
    rw [present] at checked
    by_cases null : count.isNull = true
    · cases count <;> simp_all [Value.isNull]
    cases read : asInt count with
    | error reason => simp [null, read] at checked
    | ok whole =>
      simp only [null, read, Bool.false_eq_true, if_false, ite_eq_right_iff, reduceCtorEq, imp_false,
        Int.not_lt] at checked
      obtain ⟨number, rfl, fits⟩ := asInt_eq_ok read
      simpa [Value.isNull, read, Except.toOption, fits] using checked

/-- An ingredient object that passes its checks holds nothing when unused, and otherwise the
ingredient it writes. -/
theorem ingredientOf_written {recipe name tag : String} {item : Value}
    (checked : ingredientProblem recipe name tag item = none) :
    List.Forall₂ Written (if used item then [item] else []) (ingredientOf tag item).toList := by
  unfold ingredientProblem at checked
  unfold ingredientOf
  by_cases skipped : unused item = true
  · simp [skipped, used_eq_false_of_unused skipped]
  have kept : unused item = false := by simpa using skipped
  have objectLike : item.isObjectLike = true := by
    cases shape : item.isObjectLike with
    | true => rfl
    | false => simp [kept, shape] at checked
  simp only [kept, objectLike, Bool.not_true, Bool.false_eq_true, if_false, Option.or_eq_none_iff] at checked
  obtain ⟨counted, positive⟩ := writtenCount_readField checked.2
  rw [if_pos (used_of_objectLike objectLike kept)]
  simp only [kept, Bool.false_eq_true, if_false, Option.toList_some]
  exact .cons ⟨readField_id_ne_empty checked.1, positive, counted⟩ .nil

theorem tag_of_mem_ingredientOf {tag : String} {item : Value} {entry : Payload}
    (member : entry ∈ ingredientOf tag item) : entry.tag = tag := by
  unfold ingredientOf at member
  split at member
  · cases member
  · simp only [Option.mem_def, Option.some.injEq] at member
    rw [← member]

/-- An ingredient read from an object is absent exactly when the object is unused; otherwise it
carries the tag it was read with and is written by the object. -/
theorem payload_written {recipe name tag : String} {value : Value} {result : Option Payload}
    (read : payload recipe value name tag = .ok result) :
    List.Forall₂ Written (if used value then [value] else []) result.toList ∧ ∀ entry ∈ result, entry.tag = tag := by
  rw [payload_decided, decided_eq_ok] at read
  obtain ⟨checked, rfl⟩ := read
  exact ⟨ingredientOf_written checked, fun _ => tag_of_mem_ingredientOf⟩

/-- A fixed slot holds the ingredient its object writes, tagged with the slot's role. -/
theorem slotOf_written {recipe : String} {record : Value} {role : Role} {slot : Option Payload}
    (read : slotOf recipe record role = .ok slot) :
    List.Forall₂ Written ((field? record role.field).filter used).toList slot.toList ∧
      ∀ entry ∈ slot, entry.tag = role.tag := by
  unfold slotOf at read
  split at read
  · next value present =>
    rw [present]
    obtain ⟨written, tagged⟩ := payload_written read
    refine ⟨?_, tagged⟩
    by_cases isUsed : used value = true <;> simpa [Option.filter, isUsed] using written
  · next absent =>
    cases read
    simp [absent]

/-- Objects that each pass their checks hold, in order, the ingredients their used ones write. -/
theorem filterMap_ingredientOf_written {tagOf : Value → String} :
    ∀ {items : List Value}, (∀ item ∈ items, ∃ recipe name, ingredientProblem recipe name (tagOf item) item = none) →
      List.Forall₂ Written (items.filter used) (items.filterMap fun item => ingredientOf (tagOf item) item)
  | [], _ => .nil
  | item :: rest, checked => by
    obtain ⟨recipe, name, itemChecked⟩ := checked item List.mem_cons_self
    have first := ingredientOf_written itemChecked
    have later := filterMap_ingredientOf_written fun other member => checked other (List.mem_cons_of_mem _ member)
    rw [List.filter_cons, List.filterMap_cons]
    cases found : ingredientOf (tagOf item) item <;> by_cases isUsed : used item = true <;>
      simpa [found, isUsed] using List.rel_append first later

/-- The additional ingredients are the ones the used objects of the open list write, in order. -/
theorem additionalOf_written {recipe : String} {record : Value} {additional : List Payload}
    (read : additionalOf recipe record = .ok additional) :
    List.Forall₂ Written ((((field? record additionalField).map Value.elements).getD []).filter used) additional := by
  rw [additionalOf_decided, decided_eq_ok] at read
  obtain ⟨checked, rfl⟩ := read
  apply filterMap_ingredientOf_written
  intro item member
  unfold additionalProblem at checked
  cases present : field? record additionalField with
  | none => simp [present] at member
  | some list =>
    rw [present] at checked member
    simp only [Option.map_some, Option.getD_some] at member
    have null : list.isNull = false := by
      cases list <;> simp_all [Value.isNull, Value.elements]
    have sequence : list.isSequence = true := by
      cases shape : list.isSequence with
      | true => rfl
      | false => simp [null, shape] at checked
    simp only [null, sequence, Bool.false_eq_true, Bool.not_true, if_false] at checked
    obtain ⟨entry, indexed, rfl⟩ := List.mem_map.mp ((List.zipIdx_map_fst 0 list.elements).symm ▸ member)
    have entryChecked := firstFailure_eq_none.mp checked _ (List.mem_map_of_mem indexed)
    exact ⟨recipe, entryName entry.2, (Option.or_eq_none_iff.mp entryChecked).2⟩

theorem payloads_placements (definition : Definition) :
    (Compile.placements definition).map Prod.snd =
      definition.baseLiquid.toList ++ definition.primaryIngredient.toList ++ definition.secondaryIngredient.toList ++
        definition.catalyst.toList ++ definition.additional := by
  unfold Compile.placements
  cases definition.baseLiquid <;> cases definition.primaryIngredient <;> cases definition.secondaryIngredient <;>
    cases definition.catalyst <;> simp [Function.comp_def]

/-- The ingredients of a decoded recipe, fixed slots first, are the ones its used objects write, in
order, and each fixed slot carries its role's tag. -/
theorem written_placements {record : Record} {definition : Definition} (decoded : decode record = .ok definition) :
    List.Forall₂ Written (writtenIngredients record.value) ((Compile.placements definition).map Prod.snd) ∧
      ∀ role ∈ Role.fixedRoles, ∃ slot, definition.slot role = .ok slot ∧ ∀ entry ∈ slot, entry.tag = role.tag := by
  obtain ⟨-, -, -, -, -, -, -, -, -, -, base, primary, secondary, catalyst, additional, -⟩ := decode_eq_ok decoded
  obtain ⟨baseWritten, baseTagged⟩ := slotOf_written base
  obtain ⟨primaryWritten, primaryTagged⟩ := slotOf_written primary
  obtain ⟨secondaryWritten, secondaryTagged⟩ := slotOf_written secondary
  obtain ⟨catalystWritten, catalystTagged⟩ := slotOf_written catalyst
  refine ⟨?_, ?_⟩
  · rw [payloads_placements, writtenIngredients]
    simp only [Role.fixedRoles, List.flatMap_cons, List.flatMap_nil, List.append_nil, List.append_assoc]
    exact List.rel_append baseWritten (List.rel_append primaryWritten (List.rel_append secondaryWritten
      (List.rel_append catalystWritten (additionalOf_written additional))))
  · intro role fixed
    simp only [Role.fixedRoles, List.mem_cons, List.not_mem_nil, or_false] at fixed
    rcases fixed with rfl | rfl | rfl | rfl
    · exact ⟨_, rfl, baseTagged⟩
    · exact ⟨_, rfl, primaryTagged⟩
    · exact ⟨_, rfl, secondaryTagged⟩
    · exact ⟨_, rfl, catalystTagged⟩

/-- A record that passes validation carries every required key. -/
theorem validate_present {record : Record} (validated : validate record = .ok ()) :
    ∀ name ∈ requiredFields, ∃ value, field? record.value name = some value := by
  unfold validate at validated
  split at validated
  · cases validated
  · next unmissing =>
    intro name required
    have present := List.find?_eq_none.mp unmissing name required
    simpa [Option.isNone_iff_eq_none, Option.ne_none_iff_exists'] using present

end Alembic.Recipe
