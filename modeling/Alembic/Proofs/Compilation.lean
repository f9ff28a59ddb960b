import Alembic.Proofs.Registry
import Alembic.Compile.Document
/-! # What a compiled document refers to -/

namespace Alembic.Resource

/-- The value of the first property with a name. -/
def Document.property? (document : Document) (name : String) : Option Value :=
  (document.properties.find? fun property => property.name == name).map Property.value

mutual

/-- The external resources a value refers to, in order. -/
def Value.references : Value → List Int
  | .reference id => [id]
  | .array items => Value.referencesOfAll items
  | _ => []

/-- The external resources a list of values refers to, in order. -/
def Value.referencesOfAll : List Value → List Int
  | [] => []
  | item :: rest => item.references ++ Value.referencesOfAll rest

end

@[simp] theorem Value.references_optionalReference (id : Int) (present : Bool) :
    (Value.optionalReference id present).references = if present then [id] else [] := by
  cases present <;> rfl

@[simp] theorem Value.referencesOfAll_map {α : Type} (make : α → Value) (items : List α) :
    Value.referencesOfAll (items.map make) = items.flatMap fun item => (make item).references := by
  induction items with
  | nil => rfl
  | cons item rest ih => simp [Value.referencesOfAll, ih]

end Alembic.Resource

namespace Alembic.Compile

open Recipe Resource

/-- The external resources of a document whose script comes first: one per path, numbered from
1, the first a script and the others resources. -/
def scriptFirst (paths : List String) : List External :=
  paths.mapIdx fun index path => ⟨if index = 0 then scriptKind else resourceKind, path, index + 1⟩

/-- The handle of a path among the declared paths, counted from 1. -/
def handleOf (paths : List String) (path : String) : Int := ((paths.idxOf path + 1 : Nat) : Int)

/-- Registering ingredients only appends resources. -/
theorem registerAll_extends (registry : Registry) (entries : List Entry) :
    ∃ added, (registerAll registry entries).2.entries = registry.entries ++ added ∧
      ∀ external ∈ added, external.kind = resourceKind := by
  induction entries generalizing registry with
  | nil => exact ⟨[], by simp [registerAll], by simp⟩
  | cons entry rest ih =>
    obtain ⟨first, firstEntries, firstKinds⟩ := registry.register_extends resourceKind entry.path
    obtain ⟨others, otherEntries, otherKinds⟩ := ih (registry.register resourceKind entry.path).2
    refine ⟨first ++ others, ?_, ?_⟩
    · simp only [registerAll]
      rw [otherEntries, firstEntries, List.append_assoc]
    · intro external member
      rcases List.mem_append.mp member with early | late
      · exact firstKinds external early
      · exact otherKinds external late

theorem consistent_registerAll {registry : Registry} (consistent : registry.Consistent) (entries : List Entry) :
    (registerAll registry entries).2.Consistent := by
  induction entries generalizing registry with
  | nil => exact consistent
  | cons entry rest ih => exact ih (consistent.register _ _)

/-- The paths after registering ingredients are all the paths so far without repeats. -/
theorem paths_registerAll {registry : Registry} (consistent : registry.Consistent) {seen : List String}
    (registered : registry.paths = seen.eraseDups) (entries : List Entry) :
    (registerAll registry entries).2.paths = (seen ++ entries.map Entry.path).eraseDups := by
  induction entries generalizing registry seen with
  | nil => simpa [registerAll] using registered
  | cons entry rest ih =>
    have next := Registry.paths_register_eraseDups consistent registered resourceKind entry.path
    simpa [registerAll] using ih (consistent.register _ _) next

theorem paths_prefix_registerAll (registry : Registry) (entries : List Entry) :
    registry.paths <+: (registerAll registry entries).2.paths := by
  obtain ⟨added, extended, _⟩ := registerAll_extends registry entries
  exact ⟨added.map External.path, by simp [Registry.paths, extended]⟩

/-- Each ingredient is paired with the handle of its path in the final registry. -/
theorem registerAll_handles {registry : Registry} (consistent : registry.Consistent) (entries : List Entry) :
    (registerAll registry entries).1 =
      entries.map fun entry => (entry, handleOf (registerAll registry entries).2.paths entry.path) := by
  induction entries generalizing registry with
  | nil => rfl
  | cons entry rest ih =>
    let registered := registry.register resourceKind entry.path
    have handle := Registry.register_handle consistent resourceKind entry.path
    have member : entry.path ∈ registered.2.paths := by
      rw [Registry.paths_register consistent]
      split <;> simp_all
    obtain ⟨later, extended⟩ := paths_prefix_registerAll registered.2 rest
    have unchanged : (registerAll registered.2 rest).2.paths.idxOf entry.path =
        registered.2.paths.idxOf entry.path := by
      rw [← extended, List.idxOf_append_of_mem member]
    simp only [registerAll, List.map_cons]
    rw [ih (consistent.register _ _)]
    simp only [handleOf, List.cons.injEq, Prod.mk.injEq, true_and, and_true]
    change registered.1 = _
    rw [handle, ← unchanged]

/-- What a successful compile did: it resolved the result, assembled the ingredients with the
resolver that followed, and built the document from the registry of all three. -/
theorem compile_eq_ok {compiler : Compiler} {tree : Files.Tree} {logger : Logging.Logger}
    {definition : Definition} {compiled : Compiled}
    (succeeded : (compiler.compile tree logger definition).1.1 = .ok compiled) :
    ∃ resultPath entries assembled,
      (compiler.resolver.resolve tree definition.result).1 = .ok resultPath ∧
      ({ compiler with resolver := (compiler.resolver.resolve tree definition.result).2 }).assemble tree definition =
        (.ok entries, assembled) ∧
      let script := ({} : Registry).register scriptKind compiler.options.scriptPath
      let result := script.2.register resourceKind resultPath
      let ingredients := registerAll result.2 entries
      compiled =
        { document :=
            { kind := resourceKind, scriptClass := assembled.options.scriptClass,
              loadSteps := ingredients.2.loadSteps, externals := ingredients.2.entries,
              properties := recipeProperties definition script.1 result.1 ingredients.1 },
          registry := ingredients.2 } := by
  unfold Compiler.compile at succeeded
  simp only at succeeded
  split at succeeded
  · simp at succeeded
  · next resultPath resolved =>
    split at succeeded
    · simp at succeeded
    · next entries assembled assembledEq =>
      refine ⟨resultPath, entries, assembled, resolved, assembledEq, ?_⟩
      simp only [Except.ok.injEq] at succeeded
      exact succeeded.symm

theorem register_script (scriptPath : String) :
    ({} : Registry).register scriptKind scriptPath =
      (1, { ids := [(scriptPath, 1)], entries := [⟨scriptKind, scriptPath, 1⟩] }) := by
  rw [Registry.register_of_not_mem Registry.consistent_empty _ (by simp)]
  rfl

theorem handleOf_bounds {paths : List String} {path : String} (member : path ∈ paths) :
    1 ≤ handleOf paths path ∧ handleOf paths path ≤ paths.length := by
  have inside := List.idxOf_lt_length_of_mem member
  simp only [handleOf]
  omega

theorem External.eq_mk {external : External} {kind path : String} {id : Int}
    (sameKind : external.kind = kind) (samePath : external.path = path) (sameId : external.id = id) :
    external = ⟨kind, path, id⟩ := by
  cases external
  simp_all

/-- A list of resources numbered from 1, the script first and resources after it, is the one
`scriptFirst` lays out for its paths. -/
theorem eq_scriptFirst {script : External} {rest : List External}
    (numbered : Registry.NumberedFrom 0 (script :: rest)) (scriptIsScript : script.kind = scriptKind)
    (restAreResources : ∀ external ∈ rest, external.kind = resourceKind) :
    script :: rest = scriptFirst ((script :: rest).map External.path) := by
  have positions := Registry.numberedFrom_iff.mp numbered
  apply List.ext_getElem (by simp [scriptFirst])
  intro index inside _
  simp only [scriptFirst, List.getElem_mapIdx, List.getElem_map]
  refine External.eq_mk ?_ rfl (by simpa using positions index inside)
  cases index with
  | zero => simpa using scriptIsScript
  | succ index =>
    simp only [List.getElem_cons_succ, Nat.add_one_ne_zero, if_false]
    exact restAreResources _ (List.getElem_mem _)

/-- Every reference among a recipe's properties is to its script, its result or one of its
ingredients. -/
theorem references_recipeProperties {definition : Definition} {scriptId resultId : Int}
    {ingredients : List (Entry × Int)} {property : Property}
    (member : property ∈ recipeProperties definition scriptId resultId ingredients) {handle : Int}
    (referenced : handle ∈ property.value.references) :
    handle = scriptId ∨ handle = resultId ∨ handle ∈ ingredients.map Prod.snd := by
  unfold recipeProperties at member
  simp only [List.cons_append, List.mem_cons, List.nil_append, List.mem_map] at member
  rcases member with rfl | rfl | rfl | rfl | rfl | rfl | rfl | rfl | rfl | rfl | rfl | rfl |
    ⟨role, -, rfl⟩
  all_goals simp [Value.references, Value.integers] at referenced
  · exact .inl referenced
  · exact .inr (.inl referenced)
  · obtain ⟨entry, member⟩ := referenced
    exact .inr (.inr (List.mem_map.mpr ⟨_, member, rfl⟩))
  · split at referenced
    · next found =>
      simp only [Value.references_optionalReference, if_true, List.mem_singleton] at referenced
      exact .inr (.inr (List.mem_map.mpr ⟨_, List.mem_of_find?_eq_some found, referenced.symm⟩))
    · simp at referenced

/-- The property of a fixed role refers to the first ingredient in that role, or is null when
there is none. -/
theorem property?_slot {document : Document} {definition : Definition} {scriptId resultId : Int}
    {ingredients : List (Entry × Int)}
    (properties : document.properties = recipeProperties definition scriptId resultId ingredients)
    {role : Role} (fixed : role ∈ Role.fixedRoles) :
    document.property? role.field =
      some (((ingredients.find? fun (entry, _) => entry.role == role).map fun (_, id) => Value.reference id).getD
        .null) := by
  simp only [Role.fixedRoles, List.mem_cons, List.not_mem_nil, or_false] at fixed
  rcases fixed with rfl | rfl | rfl | rfl <;>
    simp [Document.property?, properties, recipeProperties, Role.fixedRoles, Role.field,
      Value.optionalReference] <;>
    split <;> simp only [*, Option.map_some, Option.map_none, Option.getD_some, Option.getD_none]

/-- Every declared path has a resource in the script-first layout, under its handle. -/
theorem mem_scriptFirst_handle {paths : List String} {path : String} (member : path ∈ paths) :
    ∃ external ∈ scriptFirst paths, external.path = path ∧ external.id = handleOf paths path := by
  have inside : paths.idxOf path < (scriptFirst paths).length := by
    simpa [scriptFirst] using List.idxOf_lt_length_of_mem member
  refine ⟨(scriptFirst paths)[paths.idxOf path], List.getElem_mem _, ?_, ?_⟩
  · simp [scriptFirst, List.getElem_idxOf]
  · simp [scriptFirst, handleOf]

/-- The registry a compile builds: the script, the result, then the ingredients, each path once,
with the handle of its path returned to each registration. -/
theorem registered_script_result_ingredients (scriptPath resultPath : String) (entries : List Entry) :
    let script := ({} : Registry).register scriptKind scriptPath
    let result := script.2.register resourceKind resultPath
    let ingredients := registerAll result.2 entries
    ingredients.2.paths = (scriptPath :: resultPath :: entries.map Entry.path).eraseDups ∧
      ingredients.2.entries = scriptFirst ingredients.2.paths ∧
      script.1 = handleOf ingredients.2.paths scriptPath ∧
      result.1 = handleOf ingredients.2.paths resultPath ∧
      ingredients.1 = entries.map fun entry => (entry, handleOf ingredients.2.paths entry.path) := by
  intro script result ingredients
  have scriptConsistent : script.2.Consistent := Registry.consistent_empty.register _ _
  have resultConsistent : result.2.Consistent := scriptConsistent.register _ _
  have finalConsistent : ingredients.2.Consistent := consistent_registerAll resultConsistent entries
  have scriptPaths : script.2.paths = ([] ++ [scriptPath]).eraseDups :=
    Registry.paths_register_eraseDups Registry.consistent_empty rfl scriptKind scriptPath
  have resultPaths := Registry.paths_register_eraseDups scriptConsistent scriptPaths resourceKind resultPath
  have finalPaths : ingredients.2.paths = (scriptPath :: resultPath :: entries.map Entry.path).eraseDups := by
    simpa using paths_registerAll resultConsistent resultPaths entries
  obtain ⟨resultAdded, resultEntries, resultKinds⟩ := script.2.register_extends resourceKind resultPath
  obtain ⟨laterAdded, finalEntries, laterKinds⟩ := registerAll_extends result.2 entries
  have scriptEntries : script.2.entries = [⟨scriptKind, scriptPath, 1⟩] := by
    simp [script, register_script]
  have firstPath : ingredients.2.paths = scriptPath :: (ingredients.2.paths.drop 1) := by
    rw [finalPaths, List.eraseDups_cons]
    rfl
  have resultKnown : resultPath ∈ result.2.paths := by
    rw [resultPaths]
    simp
  obtain ⟨later, extended⟩ := paths_prefix_registerAll result.2 entries
  refine ⟨finalPaths, ?_, ?_, ?_, registerAll_handles resultConsistent entries⟩
  · have laidOut : ingredients.2.entries =
        ⟨scriptKind, scriptPath, 1⟩ :: (resultAdded ++ laterAdded) := by
      change (registerAll result.2 entries).2.entries = _
      rw [finalEntries, resultEntries, scriptEntries]
      simp
    have numberedList : Registry.NumberedFrom 0 (⟨scriptKind, scriptPath, 1⟩ :: (resultAdded ++ laterAdded)) := by
      rw [← laidOut]
      exact finalConsistent.numbered
    rw [Registry.paths, laidOut]
    refine eq_scriptFirst numberedList rfl fun external member => ?_
    rcases List.mem_append.mp member with early | late
    · exact resultKinds external early
    · exact laterKinds external late
  · rw [firstPath]
    simp [script, register_script, handleOf]
  · rw [Registry.register_handle scriptConsistent, handleOf, ← extended,
      List.idxOf_append_of_mem resultKnown]

/-- A compiled document declares each path it uses once, numbered from 1 with the script first,
and refers only to declared handles. -/
theorem compile_handles_dense {compiler : Compiler} {tree : Files.Tree} {logger : Logging.Logger}
    {definition : Definition} {compiled : Compiled}
    (succeeded : (compiler.compile tree logger definition).1.1 = .ok compiled) :
    ∃ resultPath entries,
      (compiler.resolver.resolve tree definition.result).1 = .ok resultPath ∧
      (({ compiler with resolver := (compiler.resolver.resolve tree definition.result).2 }).assemble tree
        definition).1 = .ok entries ∧
      let declared := (compiler.options.scriptPath :: resultPath :: entries.map Entry.path).eraseDups
      compiled.document.externals = scriptFirst declared ∧
      compiled.document.loadSteps = declared.length + 1 ∧
      compiled.document.property? "script" =
        some (.reference (handleOf declared compiler.options.scriptPath)) ∧
      compiled.document.property? "result" = some (.reference (handleOf declared resultPath)) ∧
      compiled.document.property? "ingredients" =
        some (.array (entries.map fun entry => .reference (handleOf declared entry.path))) ∧
      compiled.document.property? "ingredient_counts" = some (Value.integers (entries.map Entry.count)) ∧
      declared.Nodup ∧
      ∀ property ∈ compiled.document.properties, ∀ handle ∈ property.value.references,
        1 ≤ handle ∧ handle ≤ declared.length := by
  obtain ⟨resultPath, entries, assembled, resolved, assembledEq, rfl⟩ := compile_eq_ok succeeded
  obtain ⟨finalPaths, laidOut, scriptHandle, resultHandle, ingredientHandles⟩ :=
    registered_script_result_ingredients compiler.options.scriptPath resultPath entries
  refine ⟨resultPath, entries, resolved, by rw [assembledEq], ?_⟩
  rw [finalPaths] at laidOut scriptHandle resultHandle ingredientHandles
  dsimp only
  have distinct := Registry.nodup_eraseDups (compiler.options.scriptPath :: resultPath :: entries.map Entry.path)
  have scriptMember : compiler.options.scriptPath ∈
      (compiler.options.scriptPath :: resultPath :: entries.map Entry.path).eraseDups := by simp
  have resultMember : resultPath ∈ (compiler.options.scriptPath :: resultPath :: entries.map Entry.path).eraseDups := by
    simp
  have entryMember : ∀ entry ∈ entries,
      entry.path ∈ (compiler.options.scriptPath :: resultPath :: entries.map Entry.path).eraseDups := by
    intro entry member
    simp only [List.mem_eraseDups, List.mem_cons, List.mem_map]
    exact .inr (.inr ⟨entry, member, rfl⟩)
  generalize (compiler.options.scriptPath :: resultPath :: entries.map Entry.path).eraseDups = declared
    at finalPaths laidOut scriptHandle resultHandle ingredientHandles distinct scriptMember resultMember
      entryMember ⊢
  refine ⟨laidOut, ?_, ?_, ?_, ?_, ?_, distinct, ?_⟩
  · simp [Registry.loadSteps, ← Registry.length_paths, finalPaths]
  · simp [Document.property?, recipeProperties, scriptHandle]
  · simp [Document.property?, recipeProperties, resultHandle]
  · simp [Document.property?, recipeProperties, ingredientHandles]
  · simp [Document.property?, recipeProperties, ingredientHandles, Function.comp_def]
  · intro property member handle referenced
    rcases references_recipeProperties member referenced with isScript | isResult | isIngredient
    · exact isScript ▸ scriptHandle ▸ handleOf_bounds scriptMember
    · exact isResult ▸ resultHandle ▸ handleOf_bounds resultMember
    · rw [ingredientHandles] at isIngredient
      obtain ⟨⟨entry, _⟩, paired, rfl⟩ := List.mem_map.mp isIngredient
      obtain ⟨entry', member', same⟩ := List.mem_map.mp paired
      simp only [Prod.mk.injEq] at same
      obtain ⟨rfl, rfl⟩ := same
      exact handleOf_bounds (entryMember entry' member')

/-- A computation that is known to succeed gives its value. -/
theorem exists_ok_of_isOk {α : Type} {result : Except Failure α} (succeeded : result.isOk = true) :
    ∃ value, result = .ok value := by
  cases result with
  | error failure => simp [Except.isOk, Except.toBool] at succeeded
  | ok value => exact ⟨value, rfl⟩

/-- A compiler that already found an elixir, water and a herb. -/
def brewingCompiler : Compiler :=
  { resolver :=
      { folders := Resolve.defaultFolders ".",
        found := [("elixir", "res://resources/potions/elixir.tres"), ("water", "res://resources/items/water.tres"),
          ("herb", "res://resources/items/herb.tres")] },
    options := defaultOptions }

/-- An elixir of water and a herb, with the herb named again among the additional ingredients. -/
def herbalElixir : Definition :=
  { id := "herbal_elixir", displayName := "Herbal Elixir", result := "elixir", resultCount := 1, tier := 1,
    requiredAlchemyLevel := 0, basePotency := 0, potencyPerLevel := 0, xpReward := 5,
    baseLiquid := some ⟨"water", 1, "base"⟩, primaryIngredient := some ⟨"herb", 2, "primary"⟩,
    secondaryIngredient := none, catalyst := none, additional := [⟨"herb", 1, "additional"⟩] }

theorem compile_handles_dense_herbalElixir :
    ∃ compiled, (brewingCompiler.compile {} (Logging.makeLogger "info" "text") herbalElixir).1.1 = .ok compiled ∧
      ∃ resultPath entries,
        (brewingCompiler.resolver.resolve {} herbalElixir.result).1 = .ok resultPath ∧
        (({ brewingCompiler with resolver := (brewingCompiler.resolver.resolve {} herbalElixir.result).2 }).assemble
          {} herbalElixir).1 = .ok entries ∧
        let declared := (brewingCompiler.options.scriptPath :: resultPath :: entries.map Entry.path).eraseDups
        compiled.document.externals = scriptFirst declared ∧
        compiled.document.loadSteps = declared.length + 1 ∧
        compiled.document.property? "script" =
          some (.reference (handleOf declared brewingCompiler.options.scriptPath)) ∧
        compiled.document.property? "result" = some (.reference (handleOf declared resultPath)) ∧
        compiled.document.property? "ingredients" =
          some (.array (entries.map fun entry => .reference (handleOf declared entry.path))) ∧
        compiled.document.property? "ingredient_counts" = some (Value.integers (entries.map Entry.count)) ∧
        declared.Nodup ∧
        ∀ property ∈ compiled.document.properties, ∀ handle ∈ property.value.references,
          1 ≤ handle ∧ handle ≤ declared.length := by
  obtain ⟨result, compiled⟩ := exists_ok_of_isOk
    (show ((brewingCompiler.compile {} (Logging.makeLogger "info" "text") herbalElixir).1.1).isOk = true by
      decide +kernel)
  exact ⟨result, compiled, compile_handles_dense compiled⟩

end Alembic.Compile
