import Mathlib.Data.List.Basic
import Mathlib.Data.List.Induction
import Alembic.Resource.Registry
/-! # Handles handed out by the registry -/

namespace Alembic.Resource.Registry

/-- The registered paths, in the order of their handles. -/
def paths (registry : Registry) : List String := registry.entries.map External.path

/-- The entries of a list carry the handles after `start`, one after another. -/
def NumberedFrom : Nat → List External → Prop
  | _, [] => True
  | start, entry :: rest => entry.id = ((start + 1 : Nat) : Int) ∧ NumberedFrom (start + 1) rest

/-- The two tables of a registry in step: the entries are numbered 1, 2, ... in order and hold
distinct paths, and the id of a path is the position of its entry, counted from 1. -/
structure Consistent (registry : Registry) : Prop where
  numbered : NumberedFrom 0 registry.entries
  distinct : registry.paths.Nodup
  handles : ∀ path, registry.handle? path =
    if path ∈ registry.paths then some ((registry.paths.idxOf path + 1 : Nat) : Int) else none

@[simp] theorem paths_empty : ({} : Registry).paths = [] := rfl

theorem consistent_empty : ({} : Registry).Consistent :=
  ⟨trivial, List.nodup_nil, fun _ => rfl⟩

@[simp] theorem length_paths (registry : Registry) : registry.paths.length = registry.size := by
  simp [paths, size]

theorem numberedFrom_append {start : Nat} {entries : List External} (entry : External)
    (numbered : NumberedFrom start entries) (last : entry.id = ((start + entries.length + 1 : Nat) : Int)) :
    NumberedFrom start (entries ++ [entry]) := by
  induction entries generalizing start with
  | nil => exact ⟨by simpa using last, trivial⟩
  | cons head rest ih =>
    obtain ⟨headId, restNumbered⟩ := numbered
    refine ⟨headId, ih restNumbered ?_⟩
    rw [last]
    simp only [List.length_cons]
    omega

/-- Read by position, a numbered list holds handle `start + index + 1` at `index`. -/
theorem numberedFrom_iff {start : Nat} {entries : List External} :
    NumberedFrom start entries ↔
      ∀ (index : Nat) (inside : index < entries.length),
        entries[index].id = ((start + index + 1 : Nat) : Int) := by
  induction entries generalizing start with
  | nil => simp [NumberedFrom]
  | cons head rest ih =>
    constructor
    · rintro ⟨headId, restNumbered⟩ index inside
      cases index with
      | zero => simpa using headId
      | succ index =>
        have shifted := (ih.mp restNumbered) index (by simpa using inside)
        simp only [List.getElem_cons_succ, shifted]
        omega
    · intro positions
      have first := positions 0 (by simp)
      simp only [List.getElem_cons_zero, Nat.add_zero] at first
      refine ⟨first, ih.mpr fun index inside => ?_⟩
      have shifted := positions (index + 1) (by simpa using inside)
      simp only [List.getElem_cons_succ] at shifted
      rw [shifted]
      omega

variable {registry : Registry}

theorem Consistent.handle?_eq_none_iff (consistent : registry.Consistent) (path : String) :
    registry.handle? path = none ↔ path ∉ registry.paths := by
  rw [consistent.handles]
  split <;> simp_all

/-- Read through the entries, the id of a path is one more than the position of the entry that
holds it. -/
theorem Consistent.handle?_eq_some_iff (consistent : registry.Consistent) (path : String) (id : Int) :
    registry.handle? path = some id ↔
      ∃ (index : Nat) (inside : index < registry.entries.length),
        registry.entries[index].path = path ∧ id = index + 1 := by
  rw [consistent.handles]
  constructor
  · intro found
    split at found
    · next known =>
      have inside := List.idxOf_lt_length_of_mem known
      have atPosition := List.getElem_idxOf inside
      refine ⟨registry.paths.idxOf path, by simpa [paths] using inside,
        (List.getElem_map _).symm.trans atPosition, ?_⟩
      simp only [Option.some.injEq] at found
      rw [← found]
      push_cast
      rfl
    · cases found
  · rintro ⟨index, inside, held, rfl⟩
    have bound : index < registry.paths.length := by simpa [paths] using inside
    have atIndex : registry.paths[index] = path := by simpa [paths] using held
    have known : path ∈ registry.paths := atIndex ▸ List.getElem_mem bound
    rw [if_pos known, ← atIndex, List.Nodup.idxOf_getElem consistent.distinct]
    push_cast
    rfl

/-- A known path gives back its handle, its position among the paths counted from 1. -/
theorem register_of_mem (consistent : registry.Consistent) (kind : String) {path : String}
    (known : path ∈ registry.paths) :
    registry.register kind path = (((registry.paths.idxOf path + 1 : Nat) : Int), registry) := by
  apply register_registered
  rw [consistent.handles, if_pos known]

/-- A new path is appended with the next handle, and the first table gives it that handle. -/
theorem register_of_not_mem (consistent : registry.Consistent) (kind : String) {path : String}
    (fresh : path ∉ registry.paths) :
    registry.register kind path =
      (((registry.size + 1 : Nat) : Int),
        { ids := (path, ((registry.size + 1 : Nat) : Int)) :: registry.ids,
          entries := registry.entries ++ [⟨kind, path, registry.size + 1⟩] }) := by
  unfold register
  rw [(consistent.handle?_eq_none_iff path).mpr fresh]
  simp

theorem paths_register (consistent : registry.Consistent) (kind path : String) :
    (registry.register kind path).2.paths =
      if path ∈ registry.paths then registry.paths else registry.paths ++ [path] := by
  by_cases known : path ∈ registry.paths
  · rw [register_of_mem consistent kind known, if_pos known]
  · rw [register_of_not_mem consistent kind known, if_neg known]
    simp [paths]

/-- One registration keeps the two tables in step. -/
theorem Consistent.register (consistent : registry.Consistent) (kind path : String) :
    (registry.register kind path).2.Consistent := by
  by_cases known : path ∈ registry.paths
  · rw [register_of_mem consistent kind known]
    exact consistent
  have fresh := (consistent.handle?_eq_none_iff path).mpr known
  have appended := paths_register consistent kind path
  rw [if_neg known] at appended
  refine ⟨?_, ?_, fun other => ?_⟩
  · rw [register_of_not_mem consistent kind known]
    exact numberedFrom_append _ consistent.numbered (by simp [size])
  · rw [appended, List.nodup_append]
    refine ⟨consistent.distinct, List.nodup_cons.mpr ⟨List.not_mem_nil, List.nodup_nil⟩, ?_⟩
    rintro other member last atEnd rfl
    rw [List.mem_singleton.mp atEnd] at member
    exact known member
  · rw [handle?_register_fresh registry kind fresh, appended, consistent.handles]
    by_cases same : other = path
    · subst same
      simp [known, List.idxOf_append_of_notMem known]
    · by_cases member : other ∈ registry.paths
      · simp [same, member, List.idxOf_append_of_mem member]
      · simp [same, member]

/-- Registering only appends, and what it appends has the kind it was registered with. -/
theorem register_extends (registry : Registry) (kind path : String) :
    ∃ added, (registry.register kind path).2.entries = registry.entries ++ added ∧
      ∀ entry ∈ added, entry.kind = kind := by
  unfold register
  cases registry.handle? path with
  | none => exact ⟨_, rfl, by simp⟩
  | some entry => exact ⟨[], by simp, by simp⟩

/-- The handle of a registration is the position of its path afterwards, counted from 1. -/
theorem register_handle (consistent : registry.Consistent) (kind path : String) :
    (registry.register kind path).1 = (((registry.register kind path).2.paths.idxOf path + 1 : Nat) : Int) := by
  by_cases known : path ∈ registry.paths
  · rw [register_of_mem consistent kind known]
  · have appended := paths_register consistent kind path
    rw [if_neg known] at appended
    rw [appended, register_of_not_mem consistent kind known, List.idxOf_append_of_notMem known]
    simp [← length_paths]

/-- A path added at the end joins the list without repeats unless it is already there. -/
theorem eraseDups_concat (seen : List String) (path : String) :
    (seen ++ [path]).eraseDups = seen.eraseDups ++ if path ∈ seen then [] else [path] := by
  rw [List.eraseDups_append]
  by_cases known : path ∈ seen
  · simp [List.removeAll, known]
  · simp [List.removeAll, known, List.eraseDups_cons]

theorem nodup_eraseDups (seen : List String) : seen.eraseDups.Nodup := by
  induction seen using List.reverseRecOn with
  | nil => simp
  | append_singleton seen path ih =>
    rw [eraseDups_concat]
    by_cases known : path ∈ seen
    · simpa [known] using ih
    · simp only [known, if_false, List.nodup_append, List.nodup_cons, List.not_mem_nil,
        not_false_eq_true, List.nodup_nil, and_self, List.mem_singleton, List.mem_eraseDups, true_and]
      refine ⟨ih, ?_⟩
      rintro other member _ rfl rfl
      exact known member

/-- When the paths so far are the registered ones without repeats, so are they after one more. -/
theorem paths_register_eraseDups (consistent : registry.Consistent) {seen : List String}
    (registered : registry.paths = seen.eraseDups) (kind path : String) :
    (registry.register kind path).2.paths = (seen ++ [path]).eraseDups := by
  rw [paths_register consistent, eraseDups_concat, registered]
  by_cases known : path ∈ seen <;> simp [known]

/-! ## Any sequence of registrations -/

/-- The registry after registering each call in order, a kind and a path each. -/
def registerEach (registry : Registry) (calls : List (String × String)) : Registry :=
  calls.foldl (fun registry call => (registry.register call.1 call.2).2) registry

theorem registerEach_concat (registry : Registry) (calls : List (String × String)) (call : String × String) :
    registerEach registry (calls ++ [call]) = ((registerEach registry calls).register call.1 call.2).2 := by
  simp [registerEach, List.foldl_append]

/-- The kind a path was first registered with among the calls. -/
def firstKind (calls : List (String × String)) (path : String) : Option String :=
  (calls.find? fun call => call.2 == path).map Prod.fst

theorem firstKind_eq_none_iff (calls : List (String × String)) (path : String) :
    firstKind calls path = none ↔ path ∉ calls.map Prod.snd := by
  simp only [firstKind, Option.map_eq_none_iff, List.find?_eq_none, beq_iff_eq, List.mem_map, not_exists,
    not_and]

theorem firstKind_concat (calls : List (String × String)) (call : String × String) (path : String) :
    firstKind (calls ++ [call]) path =
      (firstKind calls path).or (if call.2 = path then some call.1 else none) := by
  by_cases same : call.2 = path <;> simp [firstKind, List.find?_append, same]

/-- What registrations from the empty registry leave: the tables in step, no repeated path, and
each entry with the kind of its first registration. -/
structure Reached (calls : List (String × String)) (registry : Registry) : Prop where
  consistent : registry.Consistent
  paths : registry.paths = (calls.map Prod.snd).eraseDups
  kinds : ∀ entry ∈ registry.entries, firstKind calls entry.path = some entry.kind

/-- One more registration keeps what a sequence of them reached. -/
theorem Reached.register {calls : List (String × String)} (reached : Reached calls registry)
    (call : String × String) : Reached (calls ++ [call]) (registry.register call.1 call.2).2 := by
  have earlier : ∀ entry ∈ registry.entries, firstKind (calls ++ [call]) entry.path = some entry.kind := by
    intro entry member
    rw [firstKind_concat, reached.kinds entry member]
    rfl
  refine ⟨reached.consistent.register _ _, ?_, ?_⟩
  · rw [paths_register_eraseDups reached.consistent reached.paths, List.map_append]
    rfl
  · by_cases known : call.2 ∈ registry.paths
    · rw [register_of_mem reached.consistent call.1 known]
      exact earlier
    · -- the new entry is the first call with its path
      have unseen : firstKind calls call.2 = none := by
        rw [firstKind_eq_none_iff, ← List.mem_eraseDups, ← reached.paths]
        exact known
      rw [register_of_not_mem reached.consistent call.1 known]
      intro entry member
      rcases List.mem_append.mp member with old | added
      · exact earlier entry old
      · rw [List.mem_singleton.mp added, firstKind_concat, unseen]
        simp

theorem reached_registerEach (calls : List (String × String)) : Reached calls (registerEach {} calls) := by
  induction calls using List.reverseRecOn with
  | nil => exact ⟨consistent_empty, rfl, by simp [registerEach]⟩
  | append_singleton calls call ih =>
    rw [registerEach_concat]
    exact ih.register call

/-- Registrations from the empty registry hand out the handles 1, 2, ... in order of first
registration, and loading takes one step per path and one more. -/
theorem registerEach_tables_in_step (calls : List (String × String)) (registry : Registry)
    (reached : registerEach {} calls = registry) :
    (∀ (index : Nat) (inside : index < registry.entries.length), registry.entries[index].id = index + 1) ∧
      registry.paths = (calls.map Prod.snd).eraseDups ∧ registry.paths.Nodup ∧
      (∀ entry ∈ registry.entries, firstKind calls entry.path = some entry.kind) ∧
      (∀ (path : String) (id : Int), registry.handle? path = some id ↔
        ∃ (index : Nat) (inside : index < registry.entries.length),
          registry.entries[index].path = path ∧ id = index + 1) ∧
      (∀ kind path : String,
        (path ∉ registry.paths ∧
          registry.register kind path =
            (((registry.size + 1 : Nat) : Int),
              { ids := (path, ((registry.size + 1 : Nat) : Int)) :: registry.ids,
                entries := registry.entries ++ [⟨kind, path, registry.size + 1⟩] })) ∨
        (path ∈ registry.paths ∧
          ∃ id, registry.handle? path = some id ∧ registry.register kind path = (id, registry))) ∧
      registry.size = (calls.map Prod.snd).eraseDups.length ∧ registry.loadSteps = registry.size + 1 := by
  subst reached
  have reached := reached_registerEach calls
  have consistent := reached.consistent
  refine ⟨fun index inside => ?_, reached.paths, consistent.distinct, reached.kinds,
    consistent.handle?_eq_some_iff, fun kind path => ?_, ?_, rfl⟩
  · rw [numberedFrom_iff.mp consistent.numbered index inside]
    simp
  · by_cases known : path ∈ (registerEach {} calls).paths
    · exact .inr ⟨known, _, by rw [consistent.handles, if_pos known], register_of_mem consistent kind known⟩
    · exact .inl ⟨known, register_of_not_mem consistent kind known⟩
  · rw [← length_paths, reached.paths]

/-- A script, then a resource registered twice, the second time as a script, then another
resource. -/
def waterCalls : List (String × String) :=
  [("Script", "res://scripts/data/potion_recipe_data.gd"), ("Resource", "res://resources/items/water.tres"),
    ("Script", "res://resources/items/water.tres"), ("Resource", "res://resources/items/red_herb.tres")]

theorem registerEach_tables_in_step_water :
    registerEach {} waterCalls = registerEach {} waterCalls ∧
      (∀ (index : Nat) (inside : index < (registerEach {} waterCalls).entries.length),
        (registerEach {} waterCalls).entries[index].id = index + 1) ∧
      (registerEach {} waterCalls).paths = (waterCalls.map Prod.snd).eraseDups ∧
      (registerEach {} waterCalls).paths.Nodup ∧
      (∀ entry ∈ (registerEach {} waterCalls).entries, firstKind waterCalls entry.path = some entry.kind) ∧
      (∀ (path : String) (id : Int), (registerEach {} waterCalls).handle? path = some id ↔
        ∃ (index : Nat) (inside : index < (registerEach {} waterCalls).entries.length),
          (registerEach {} waterCalls).entries[index].path = path ∧ id = index + 1) ∧
      (∀ kind path : String,
        (path ∉ (registerEach {} waterCalls).paths ∧
          (registerEach {} waterCalls).register kind path =
            ((((registerEach {} waterCalls).size + 1 : Nat) : Int),
              { ids := (path, (((registerEach {} waterCalls).size + 1 : Nat) : Int)) ::
                  (registerEach {} waterCalls).ids,
                entries := (registerEach {} waterCalls).entries ++
                  [⟨kind, path, (registerEach {} waterCalls).size + 1⟩] })) ∨
        (path ∈ (registerEach {} waterCalls).paths ∧ ∃ id, (registerEach {} waterCalls).handle? path = some id ∧
          (registerEach {} waterCalls).register kind path = (id, registerEach {} waterCalls))) ∧
      (registerEach {} waterCalls).size = (waterCalls.map Prod.snd).eraseDups.length ∧
      (registerEach {} waterCalls).loadSteps = (registerEach {} waterCalls).size + 1 :=
  ⟨rfl, registerEach_tables_in_step waterCalls _ rfl⟩

end Alembic.Resource.Registry
