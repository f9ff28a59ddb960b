import Mathlib.Data.List.Nodup
import Alembic.Proofs.Compilation
/-! # Assembled ingredients -/

namespace Alembic.Recipe

instance : LawfulBEq Role where
  eq_of_beq {first second} equal := by
    change instBEqRole.beq first second = true at equal
    cases first <;> cases second <;> simp_all [instBEqRole.beq]
  rfl {role} := by
    change instBEqRole.beq role role = true
    cases role <;> simp [instBEqRole.beq]

@[simp] theorem Role.isFixed_of_mem {role : Role} (fixed : role ∈ Role.fixedRoles) : role.isFixed = true := by
  simp only [Role.fixedRoles, List.mem_cons, List.not_mem_nil, or_false] at fixed
  rcases fixed with rfl | rfl | rfl | rfl <;> rfl

/-- A tag names a fixed role exactly when it is that role's tag. -/
theorem parseRole_eq_iff {role : Role} (fixed : role ∈ Role.fixedRoles) (tag : String) :
    parseRole tag = role ↔ role.tag = tag := by
  constructor
  · intro parsed
    unfold parseRole at parsed
    cases found : Role.fixedRoles.find? (fun candidate => candidate.tag == tag) with
    | none =>
      rw [found] at parsed
      simp only [Option.getD_none] at parsed
      subst parsed
      simp [Role.fixedRoles] at fixed
    | some candidate =>
      rw [found] at parsed
      simp only [Option.getD_some] at parsed
      subst parsed
      simpa using List.find?_some found
  · intro named
    rw [← named]
    exact parseRole_tag role fixed

end Alembic.Recipe

namespace Alembic.Compile

open Recipe Resource

/-- The bound roles are the fixed roles of the entries, each once. -/
def Gathered.Consistent (gathered : Gathered) : Prop :=
  gathered.bound = (gathered.entries.map Entry.role).filter Role.isFixed ∧ gathered.bound.Nodup

theorem Gathered.consistent_empty : ({} : Gathered).Consistent := by
  simp [Gathered.Consistent]

/-- What placing one ingredient did when it succeeded: the role was free or open, the identifier
was not empty and resolved under the ingredient namespace, and one entry was appended. -/
theorem place_eq_ok {compiler : Compiler} {tree : Files.Tree} {recipe : String} {gathered next : Gathered}
    {role : Role} {payload : Payload} (placed : (compiler.place tree recipe gathered role payload).1 = .ok next) :
    ¬(role.isFixed ∧ role ∈ gathered.bound) ∧ payload.id ≠ "" ∧
      ∃ path, (compiler.resolver.resolve tree payload.id).1 = .ok path ∧
        Resolve.requireNamespace path compiler.options.ingredientNamespace recipe payload.tag = .ok () ∧
        next =
          { bound := if role.isFixed then gathered.bound ++ [role] else gathered.bound,
            entries := gathered.entries ++ [⟨path, if payload.count = 0 then 1 else payload.count, role, payload.tag⟩] } := by
  unfold Compiler.place at placed
  split at placed
  · simp at placed
  · next free =>
    by_cases named : payload.id = ""
    · simp [named] at placed
    · cases resolved : (compiler.resolver.resolve tree payload.id).1 with
      | error failure => simp [named, resolved] at placed
      | ok path =>
        cases inside : Resolve.requireNamespace path compiler.options.ingredientNamespace recipe payload.tag with
        | error failure => simp [named, resolved, inside] at placed
        | ok _ =>
          simp only [named, String.isEmpty_iff, resolved, inside, if_false, Except.ok.injEq] at placed
          exact ⟨by simpa using free, named, path, rfl, inside, placed.symm⟩

/-- A successful run of placements appends one entry per placement, in its role, and keeps the
bound roles consistent. -/
theorem placeAll_ok {tree : Files.Tree} {recipe : String} {compiler : Compiler} {gathered result : Gathered}
    {placements : List (Role × Payload)} (consistent : gathered.Consistent)
    (placed : (Compiler.placeAll tree recipe compiler gathered placements).1 = .ok result) :
    ∃ added, result.entries = gathered.entries ++ added ∧
      added.map Entry.role = placements.map Prod.fst ∧ result.Consistent := by
  induction placements generalizing compiler gathered with
  | nil =>
    simp only [Compiler.placeAll, Except.ok.injEq] at placed
    subst placed
    exact ⟨[], by simp, rfl, consistent⟩
  | cons placement rest ih =>
    obtain ⟨role, payload⟩ := placement
    unfold Compiler.placeAll at placed
    split at placed
    · next next compiler' once =>
      obtain ⟨free, _, path, _, _, nextEq⟩ := place_eq_ok (congrArg Prod.fst once)
      have nextConsistent : next.Consistent := by
        obtain ⟨bound, distinct⟩ := consistent
        subst nextEq
        constructor
        · by_cases fixed : role.isFixed <;> simp [fixed, bound]
        · by_cases fixed : role.isFixed
          · have fresh : role ∉ gathered.bound := fun member => free ⟨fixed, member⟩
            simp only [fixed, if_true]
            refine List.nodup_append.mpr ⟨distinct, by simp, ?_⟩
            rintro other member _ last rfl
            exact fresh (by simpa [List.mem_singleton.mp last] using member)
          · simpa [fixed] using distinct
      obtain ⟨added, resultEntries, roles, resultConsistent⟩ := ih nextConsistent placed
      refine ⟨⟨path, if payload.count = 0 then 1 else payload.count, role, payload.tag⟩ :: added, ?_, ?_,
        resultConsistent⟩
      · rw [resultEntries, nextEq]
        simp
      · simp [roles]
    · simp at placed

/-- The roles of an assembled recipe are the roles of its placements, and no fixed role is taken
twice. -/
theorem assemble_roles {compiler : Compiler} {tree : Files.Tree} {definition : Definition}
    {entries : List Entry} (assembled : (compiler.assemble tree definition).1 = .ok entries) :
    entries.map Entry.role = (placements definition).map Prod.fst ∧
      ((entries.map Entry.role).filter Role.isFixed).Nodup := by
  unfold Compiler.assemble at assembled
  split at assembled
  · simp at assembled
  · next gathered compiler' placed =>
    split at assembled
    · simp at assembled
    · simp only [Except.ok.injEq] at assembled
      obtain ⟨added, gatheredEntries, roles, bound, distinct⟩ :=
        placeAll_ok Gathered.consistent_empty (congrArg Prod.fst placed)
      subst assembled
      simp only [gatheredEntries] at bound ⊢
      refine ⟨by simpa using roles, ?_⟩
      rw [← bound]
      exact distinct

/-- A fixed role is placed exactly when its slot is filled or an additional ingredient is tagged
with it. -/
theorem mem_placements_roles {role : Role} (fixed : role ∈ Role.fixedRoles) (definition : Definition) :
    role ∈ (placements definition).map Prod.fst ↔
      (∃ payload, definition.slot role = .ok (some payload)) ∨
        ∃ payload ∈ definition.additional, payload.tag = role.tag := by
  have parsed (payload : Payload) : parseRole payload.tag = role ↔ payload.tag = role.tag := by
    rw [parseRole_eq_iff fixed, eq_comm]
  have additional : role ∈ definition.additional.map (fun payload => parseRole payload.tag) ↔
      ∃ payload ∈ definition.additional, payload.tag = role.tag := by
    simp [parsed]
  simp only [placements, List.map_append, List.mem_append, List.map_map, Function.comp_def, additional]
  refine or_congr_left ?_
  simp only [Role.fixedRoles, List.mem_cons, List.not_mem_nil, or_false] at fixed
  rcases fixed with rfl | rfl | rfl | rfl <;>
    simp [Definition.slot, List.mem_filterMap, Option.map_eq_some_iff]

theorem countP_role_le_one {entries : List Entry} {role : Role}
    (distinct : ((entries.map Entry.role).filter Role.isFixed).Nodup) (fixed : role.isFixed = true) :
    entries.countP (fun entry => entry.role == role) ≤ 1 := by
  have once := List.nodup_iff_count_le_one.mp distinct role
  rw [List.count_filter fixed, List.count, List.countP_map] at once
  simpa [Function.comp_def] using once

/-- With no fixed role taken twice, the first entry in a fixed role is the only one. -/
theorem find?_role_of_mem {entries : List Entry} {role : Role} {entry : Entry}
    (distinct : ((entries.map Entry.role).filter Role.isFixed).Nodup) (fixed : role.isFixed = true)
    (member : entry ∈ entries) (hasRole : entry.role = role) :
    entries.find? (fun entry => entry.role == role) = some entry := by
  induction entries with
  | nil => simp at member
  | cons head rest ih =>
    rcases List.mem_cons.mp member with rfl | later
    · simp [hasRole]
    · have other : head.role ≠ role := by
        rintro same
        have headFixed : head.role.isFixed = true := same ▸ fixed
        have repeated : head.role ∈ (rest.map Entry.role).filter Role.isFixed :=
          List.mem_filter.mpr ⟨List.mem_map.mpr ⟨entry, later, hasRole.trans same.symm⟩, headFixed⟩
        simp only [List.map_cons, List.filter_cons, headFixed, if_true, List.nodup_cons] at distinct
        exact distinct.1 repeated
      have restDistinct : ((rest.map Entry.role).filter Role.isFixed).Nodup := by
        simp only [List.map_cons, List.filter_cons] at distinct
        split at distinct
        · exact (List.nodup_cons.mp distinct).2
        · exact distinct
      rw [List.find?_cons_of_neg (by simpa using other)]
      exact ih restDistinct later

/-- A compiled recipe lists its sixteen properties in order, each fixed role with at most one
entry, referred to by its property exactly when the entry exists. -/
theorem compile_fixed_slots {compiler : Compiler} {tree : Files.Tree} {logger : Logging.Logger}
    {definition : Definition} {compiled : Compiled}
    (succeeded : (compiler.compile tree logger definition).1.1 = .ok compiled) :
    compiled.document.properties.map Property.name =
      ["script", "id", "display_name", "result", "result_count", "ingredients", "ingredient_counts", "tier",
        "required_alchemy_level", "base_potency", "potency_per_level", "xp_reward", "base_liquid",
        "primary_ingredient", "secondary_ingredient", "catalyst"] ∧
    ∃ entries,
      (({ compiler with resolver := (compiler.resolver.resolve tree definition.result).2 }).assemble tree
        definition).1 = .ok entries ∧
      ∀ role ∈ Role.fixedRoles,
        entries.countP (fun entry => entry.role == role) ≤ 1 ∧
        ((∃ entry ∈ entries, entry.role = role) ↔
          (∃ payload, definition.slot role = .ok (some payload)) ∨
            ∃ payload ∈ definition.additional, payload.tag = role.tag) ∧
        (∀ entry ∈ entries, entry.role = role →
          ∃ external ∈ compiled.document.externals, external.path = entry.path ∧
            compiled.document.property? role.field = some (.reference external.id)) ∧
        ((∀ entry ∈ entries, entry.role ≠ role) ↔ compiled.document.property? role.field = some .null) := by
  obtain ⟨resultPath, entries, _, _, assembledEq, compiledEq⟩ := compile_eq_ok succeeded
  obtain ⟨finalPaths, laidOut, _, _, ingredientHandles⟩ :=
    registered_script_result_ingredients compiler.options.scriptPath resultPath entries
  rw [finalPaths] at laidOut ingredientHandles
  have properties := congrArg (fun compiled : Compiled => compiled.document.properties) compiledEq
  have externals := congrArg (fun compiled : Compiled => compiled.document.externals) compiledEq
  dsimp only at properties externals
  obtain ⟨roles, distinct⟩ := assemble_roles (congrArg Prod.fst assembledEq)
  refine ⟨by simp [properties, recipeProperties, Role.fixedRoles, Role.field], entries, by rw [assembledEq], ?_⟩
  intro role fixed
  have fixedBool := Role.isFixed_of_mem fixed
  -- the property reads the first entry in the role, and with distinct roles that is the only one
  have slot := property?_slot properties fixed
  rw [ingredientHandles, List.find?_map] at slot
  simp only [Function.comp_def, Option.map_map] at slot
  refine ⟨countP_role_le_one distinct fixedBool, ?_, ?_, ?_⟩
  · rw [← mem_placements_roles fixed, ← roles, List.mem_map]
  · intro entry member hasRole
    rw [find?_role_of_mem distinct fixedBool member hasRole] at slot
    have declared :
        entry.path ∈ (compiler.options.scriptPath :: resultPath :: entries.map Entry.path).eraseDups := by
      simp only [List.mem_eraseDups, List.mem_cons, List.mem_map]
      exact .inr (.inr ⟨entry, member, rfl⟩)
    obtain ⟨external, listed, samePath, sameId⟩ := mem_scriptFirst_handle declared
    refine ⟨external, by rw [externals, laidOut]; exact listed, samePath, ?_⟩
    rw [slot, sameId]
    rfl
  · rw [slot]
    cases found : entries.find? (fun entry => entry.role == role) with
    | none => simpa using List.find?_eq_none.mp found
    | some entry =>
      simp only [Option.map_some, Option.getD_some, Option.some.injEq, reduceCtorEq, iff_false, not_forall]
      exact ⟨entry, List.mem_of_find?_eq_some found, by simpa using List.find?_some found⟩

/-- An elixir whose catalyst slot is left empty and then claimed by an additional herb. -/
def catalysedElixir : Definition :=
  { herbalElixir with
    id := "catalysed_elixir", displayName := "Catalysed Elixir",
    additional := [⟨"herb", 1, "catalyst"⟩, ⟨"water", 3, "additional"⟩] }

theorem compile_fixed_slots_catalysedElixir :
    ∃ compiled,
      (brewingCompiler.compile {} (Logging.makeLogger "info" "text") catalysedElixir).1.1 = .ok compiled ∧
      compiled.document.properties.map Property.name =
        ["script", "id", "display_name", "result", "result_count", "ingredients", "ingredient_counts", "tier",
          "required_alchemy_level", "base_potency", "potency_per_level", "xp_reward", "base_liquid",
          "primary_ingredient", "secondary_ingredient", "catalyst"] ∧
      ∃ entries,
        (({ brewingCompiler with resolver := (brewingCompiler.resolver.resolve {} catalysedElixir.result).2 }).assemble
          {} catalysedElixir).1 = .ok entries ∧
        ∀ role ∈ Role.fixedRoles,
          entries.countP (fun entry => entry.role == role) ≤ 1 ∧
          ((∃ entry ∈ entries, entry.role = role) ↔
            (∃ payload, catalysedElixir.slot role = .ok (some payload)) ∨
              ∃ payload ∈ catalysedElixir.additional, payload.tag = role.tag) ∧
          (∀ entry ∈ entries, entry.role = role →
            ∃ external ∈ compiled.document.externals, external.path = entry.path ∧
              compiled.document.property? role.field = some (.reference external.id)) ∧
          ((∀ entry ∈ entries, entry.role ≠ role) ↔ compiled.document.property? role.field = some .null) := by
  obtain ⟨result, compiled⟩ := exists_ok_of_isOk
    (show ((brewingCompiler.compile {} (Logging.makeLogger "info" "text") catalysedElixir).1.1).isOk = true by
      decide +kernel)
  exact ⟨result, compiled, compile_fixed_slots compiled⟩

end Alembic.Compile
