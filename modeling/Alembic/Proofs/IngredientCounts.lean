import Alembic.Proofs.Assembly
import Alembic.Proofs.DecodedRecipes
/-! # The ingredients of a decoded recipe -/

namespace Alembic.Compile

open Recipe Resource

/-- Every entry of the right list of a pointwise relation is related to an item of the left one. -/
theorem exists_related_of_mem {α β : Type} {related : α → β → Prop} :
    ∀ {items : List α} {entries : List β}, List.Forall₂ related items entries →
      ∀ entry ∈ entries, ∃ item ∈ items, related item entry
  | _, _, .nil, _, member => absurd member List.not_mem_nil
  | _, _, .cons first rest, entry, member => by
    rcases List.mem_cons.mp member with rfl | later
    · exact ⟨_, List.mem_cons_self, first⟩
    · obtain ⟨item, inside, relatedItem⟩ := exists_related_of_mem rest entry later
      exact ⟨item, List.mem_cons_of_mem _ inside, relatedItem⟩

/-- Placing ingredients enters each with its count, a count of 0 as 1. -/
theorem placeAll_counts {tree : Files.Tree} {recipe : String} :
    ∀ {compiler : Compiler} {gathered result : Gathered} {placements : List (Role × Payload)},
      (Compiler.placeAll tree recipe compiler gathered placements).1 = .ok result →
      result.entries.map Entry.count =
        gathered.entries.map Entry.count ++
          placements.map fun placement => if placement.2.count = 0 then 1 else placement.2.count
  | _, gathered, result, [], placed => by
    simp only [Compiler.placeAll, Except.ok.injEq] at placed
    simp [placed]
  | compiler, gathered, result, (role, payload) :: rest, placed => by
    unfold Compiler.placeAll at placed
    split at placed
    · next next after once =>
      obtain ⟨-, -, path, -, -, nextEq⟩ := place_eq_ok (congrArg Prod.fst once)
      rw [placeAll_counts placed, nextEq]
      simp
    · cases placed

theorem assemble_counts {compiler : Compiler} {tree : Files.Tree} {definition : Definition} {entries : List Entry}
    (assembled : (compiler.assemble tree definition).1 = .ok entries) :
    entries.map Entry.count =
      (placements definition).map fun placement => if placement.2.count = 0 then 1 else placement.2.count := by
  unfold Compiler.assemble at assembled
  split at assembled
  · cases assembled
  · next gathered after placed =>
    split at assembled
    · cases assembled
    · cases assembled
      simpa using placeAll_counts (congrArg Prod.fst placed)

/-- Placing fails for a missing id only when the ingredient has none. -/
theorem place_missingId {compiler : Compiler} {tree : Files.Tree} {recipe : String} {gathered : Gathered}
    {role : Role} {payload : Payload} {failed : String} {tag : String}
    (missing : (compiler.place tree recipe gathered role payload).1 = .error (.missingField failed "id" tag)) :
    payload.id = "" := by
  by_contra named
  unfold Compiler.place at missing
  split at missing
  · cases missing
  · rw [if_neg (by simpa using named)] at missing
    -- past the id check, placing fails only in resolving the id or in checking its namespace
    generalize compiler.resolver.resolve tree payload.id = resolved at missing
    obtain ⟨found | path, resolver⟩ := resolved
    · cases missing
    · simp only [Resolve.requireNamespace] at missing
      split at missing
      · next required =>
        cases missing
        split at required <;> cases required
      · cases missing

theorem placeAll_missingId {tree : Files.Tree} {recipe failed tag : String} :
    ∀ {compiler : Compiler} {gathered : Gathered} {placements : List (Role × Payload)},
      (Compiler.placeAll tree recipe compiler gathered placements).1 = .error (.missingField failed "id" tag) →
      ∃ placement ∈ placements, placement.2.id = ""
  | _, _, [], missing => by cases missing
  | compiler, gathered, (role, payload) :: rest, missing => by
    unfold Compiler.placeAll at missing
    split at missing
    · obtain ⟨placement, member, unnamed⟩ := placeAll_missingId missing
      exact ⟨placement, List.mem_cons_of_mem _ member, unnamed⟩
    · next once =>
      cases missing
      exact ⟨(role, payload), List.mem_cons_self, place_missingId (congrArg Prod.fst once)⟩

theorem assemble_missingId {compiler : Compiler} {tree : Files.Tree} {definition : Definition}
    {failed tag : String} (missing : (compiler.assemble tree definition).1 = .error (.missingField failed "id" tag)) :
    ∃ placement ∈ placements definition, placement.2.id = "" := by
  unfold Compiler.assemble at missing
  split at missing
  · next after placed =>
    cases missing
    exact placeAll_missingId (congrArg Prod.fst placed)
  · split at missing <;> cases missing

/-- A compiled document's `ingredient_counts` are the counts of the entries it assembled. -/
theorem ingredientCounts_compile {compiler : Compiler} {tree : Files.Tree} {logger : Logging.Logger}
    {definition : Definition} {compiled : Compiled}
    (succeeded : (compiler.compile tree logger definition).1.1 = .ok compiled) :
    ∃ (assembler : Compiler) (entries : List Entry), (assembler.assemble tree definition).1 = .ok entries ∧
      compiled.document.property? "ingredient_counts" = some (Value.integers (entries.map Entry.count)) := by
  obtain ⟨resultPath, entries, assembled, -, assembledEq, rfl⟩ := compile_eq_ok succeeded
  obtain ⟨-, -, -, -, ingredientHandles⟩ :=
    registered_script_result_ingredients compiler.options.scriptPath resultPath entries
  refine ⟨_, entries, by rw [assembledEq], ?_⟩
  simp [Document.property?, recipeProperties, ingredientHandles, Function.comp_def]

/-- The counts a decoded recipe places are the counts its record writes for its ingredients. -/
theorem writtenCount_placements {record : Table.Record} {definition : Definition}
    (decoded : decode record = .ok definition) :
    (writtenIngredients record.value).map writtenCount =
      (placements definition).map fun placement => some placement.2.count := by
  have counted := List.rel_map (fun (item : Table.Value) (entry : Payload) (written : Written item entry) => written.counted)
    (written_placements decoded).1
  rw [List.forall₂_eq_eq_eq] at counted
  rw [counted, List.map_map]
  rfl

/-- What assembling and compiling a decoded recipe can and cannot do with its ingredients. -/
structure CountedIngredients (record : Table.Record) (definition : Definition) : Prop where
  named : ∀ placement ∈ placements definition, placement.2.id ≠ "" ∧ 1 ≤ placement.2.count
  fixedSlots : ∀ role ∈ Role.fixedRoles, ∃ slot, definition.slot role = .ok slot ∧ ∀ entry ∈ slot, entry.tag = role.tag
  noMissingId : ∀ (compiler : Compiler) (tree : Files.Tree) (recipe tag : String),
    (compiler.assemble tree definition).1 ≠ .error (.missingField recipe "id" tag)
  countsKept : ∀ (compiler : Compiler) (tree : Files.Tree) (entries : List Entry),
    (compiler.assemble tree definition).1 = .ok entries →
      entries.map Entry.count = (placements definition).map fun placement => placement.2.count
  countsWritten : ∀ (compiler : Compiler) (tree : Files.Tree) (logger : Logging.Logger) (compiled : Compiled),
    (compiler.compile tree logger definition).1.1 = .ok compiled →
      ∃ counts, compiled.document.property? "ingredient_counts" = some (Value.integers counts) ∧
        counts.map some = (writtenIngredients record.value).map writtenCount ∧ ∀ count ∈ counts, 1 ≤ count

/-- A decoded recipe's ingredients have ids and counts of at least 1, so assembling keeps the
counts the table writes, 1 where it writes none. -/
theorem decoded_ingredients_counted (record : Table.Record) :
    (validate record = .ok () →
      ∀ name ∈ ["recipe_id", "display_name", "result", "result_count", "tier", "required_alchemy_level",
        "base_potency", "potency_per_level", "xp_reward"], ∃ value, field? record.value name = some value) ∧
      ∀ definition, decode record = .ok definition → CountedIngredients record definition := by
  refine ⟨fun validated name scalar => validate_present validated name ?_, fun definition decoded => ?_⟩
  · simp only [List.mem_cons, List.not_mem_nil, or_false] at scalar
    rcases scalar with rfl | rfl | rfl | rfl | rfl | rfl | rfl | rfl | rfl <;> decide
  obtain ⟨written, fixedSlots⟩ := written_placements decoded
  have named : ∀ placement ∈ placements definition, placement.2.id ≠ "" ∧ 1 ≤ placement.2.count := by
    intro placement member
    obtain ⟨item, -, itemWritten⟩ := exists_related_of_mem written _ (List.mem_map_of_mem member)
    exact ⟨itemWritten.named, itemWritten.positive⟩
  -- with every count at least 1, the fallback for a count of 0 changes nothing
  have countsKept : ∀ (compiler : Compiler) (tree : Files.Tree) (entries : List Entry),
      (compiler.assemble tree definition).1 = .ok entries →
        entries.map Entry.count = (placements definition).map fun placement => placement.2.count := by
    intro compiler tree entries assembled
    rw [assemble_counts assembled]
    refine List.map_congr_left fun placement member => ?_
    have positive := (named placement member).2
    rw [if_neg (by omega)]
  refine ⟨named, fixedSlots, fun compiler tree recipe tag missing => ?_, countsKept, ?_⟩
  · obtain ⟨placement, member, unnamed⟩ := assemble_missingId missing
    exact (named placement member).1 unnamed
  · intro compiler tree logger compiled succeeded
    obtain ⟨assembler, entries, assembled, counts⟩ := ingredientCounts_compile succeeded
    refine ⟨entries.map Entry.count, counts, ?_, ?_⟩
    · rw [countsKept assembler tree entries assembled, List.map_map, writtenCount_placements decoded]
      rfl
    · intro count member
      rw [countsKept assembler tree entries assembled] at member
      obtain ⟨placement, placed, rfl⟩ := List.mem_map.mp member
      exact (named placement placed).2

/-- A tea of water, two chamomile flowers and honey; only the chamomile's count is written. -/
def calmingTeaRecord : Table.Record :=
  let integer (value : Nat) : Table.Value := .number (.finite false value 0 64)
  let ingredient (id : String) (count : Table.Value) : Table.Value :=
    .object [("id", .string id), ("count", count)]
  { index := 0,
    value := .object [("recipe_id", .string "calming_tea"), ("display_name", .string "Calming Tea"),
      ("result", .string "calming_tea"), ("result_count", integer 1), ("tier", integer 1),
      ("required_alchemy_level", integer 1), ("base_potency", .number (.infinite false)),
      ("potency_per_level", .number (.infinite false)), ("xp_reward", integer 5),
      ("base_liquid", .object [("id", .string "water")]), ("primary_ingredient", ingredient "chamomile" (integer 2)),
      ("catalyst", .null .dynamic), ("additional_ingredients", .tuple [ingredient "honey" (.null .dynamic)])] }

theorem decoded_ingredients_counted_calmingTea :
    validate calmingTeaRecord = .ok () ∧
      (∀ name ∈ ["recipe_id", "display_name", "result", "result_count", "tier", "required_alchemy_level",
        "base_potency", "potency_per_level", "xp_reward"], ∃ value, field? calmingTeaRecord.value name = some value) ∧
      (writtenIngredients calmingTeaRecord.value).map writtenCount = [some 1, some 2, some 1] ∧
      ∃ definition, decode calmingTeaRecord = .ok definition ∧ CountedIngredients calmingTeaRecord definition := by
  have validates : (validate calmingTeaRecord).isOk = true := by decide +kernel
  obtain ⟨⟨⟩, validated⟩ := exists_ok_of_isOk validates
  have decodes : (decode calmingTeaRecord).isOk = true := by decide +kernel
  obtain ⟨definition, decoded⟩ := exists_ok_of_isOk decodes
  exact ⟨validated, (decoded_ingredients_counted calmingTeaRecord).1 validated, by decide +kernel, definition, decoded,
    (decoded_ingredients_counted calmingTeaRecord).2 definition decoded⟩

end Alembic.Compile
