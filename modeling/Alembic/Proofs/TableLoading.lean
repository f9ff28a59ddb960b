import Mathlib
import Alembic.Table.Loader
/-! # Loading the recipe list -/

namespace Alembic.Table

open Files

/-- An entry of the recipe list that can be a record: an object or a map, and not null. -/
def RecordShaped (value : Value) : Prop := value.isNull = false ∧ value.isObjectLike = true

instance (value : Value) : Decidable (RecordShaped value) := inferInstanceAs (Decidable (_ ∧ _))

/-- The test the loader applies to each entry refuses exactly the entries that cannot be records. -/
theorem refused_iff (value : Value) :
    decide (value.isNull = true ∨ (!value.isObjectLike) = true) = true ↔ ¬RecordShaped value := by
  cases null : value.isNull <;> cases objectLike : value.isObjectLike <;> simp [RecordShaped, null, objectLike]

/-- The records of a list of entries: each with its position. -/
theorem getElem?_records (elements : List Value) (index : Nat) :
    (elements.zipIdx.map fun entry => (⟨entry.2, entry.1⟩ : Record))[index]? =
      elements[index]?.map fun element => ⟨index, element⟩ := by
  rw [List.getElem?_map, List.getElem?_zipIdx, Option.map_map]
  simp [Function.comp_def]

/-- The loader's search for a misshapen entry stops at the first one, with its position. -/
theorem find?_refused_first {elements : List Value} {index : Nat} {element : Value}
    (present : elements[index]? = some element) (misshapen : ¬RecordShaped element)
    (before : ∀ earlierIndex < index, ∀ earlier, elements[earlierIndex]? = some earlier → RecordShaped earlier) :
    elements.zipIdx.find? (fun entry => entry.1.isNull ∨ !entry.1.isObjectLike) = some (element, index) := by
  obtain ⟨inside, rfl⟩ := List.getElem?_eq_some_iff.mp present
  rw [List.find?_eq_some_iff_getElem]
  refine ⟨(refused_iff _).mpr misshapen, index, by simpa using inside, by simp, fun earlierIndex earlier => ?_⟩
  have shaped := before earlierIndex earlier _ (List.getElem?_eq_getElem (by omega))
  simpa [List.getElem_zipIdx, refused_iff, RecordShaped] using shaped

/-- The loader's search finds no misshapen entry when every entry can be a record. -/
theorem find?_refused_none {elements : List Value} (shaped : ∀ element ∈ elements, RecordShaped element) :
    elements.zipIdx.find? (fun entry => entry.1.isNull ∨ !entry.1.isObjectLike) = none := by
  rw [List.find?_eq_none]
  intro entry member
  rw [refused_iff, not_not]
  exact shaped entry.1 (List.mem_iff_getElem?.mpr ⟨entry.2, List.mem_zipIdx_iff_getElem?.mp member⟩)

/-- A list with a misshapen entry has a first one. -/
theorem exists_first_misshapen {elements : List Value} {element : Value} (member : element ∈ elements)
    (misshapen : ¬RecordShaped element) :
    ∃ index : Nat, ∃ first, elements[index]? = some first ∧ ¬RecordShaped first ∧
      ∀ earlierIndex < index, ∀ earlier, elements[earlierIndex]? = some earlier → RecordShaped earlier := by
  classical
  have somewhere : ∃ index : Nat, ∃ bad, elements[index]? = some bad ∧ ¬RecordShaped bad := by
    obtain ⟨index, present⟩ := List.mem_iff_getElem?.mp member
    exact ⟨index, element, present, misshapen⟩
  obtain ⟨bad, present, refused⟩ := Nat.find_spec somewhere
  refine ⟨Nat.find somewhere, bad, present, refused, fun earlierIndex earlierBelow earlier found => ?_⟩
  by_contra earlierMisshapen
  exact Nat.find_min somewhere earlierBelow ⟨earlier, found, earlierMisshapen⟩

/-- The reason a table without a recipe list is refused. -/
theorem listReason_eq : "'" ++ recipesAttribute ++ "' must be a list" = "'recipes' must be a list" := by
  unfold recipesAttribute
  apply String.ext
  simp

section Parsed

/-! Loading a table file that parses into attributes, once its `recipes` attribute is evaluated. -/

variable {tree : Tree} {logger : Logging.Logger} {path : String} {content : ByteArray} {dialect : Dialect}
  {attributes : List (String × Attribute)} {found : Attribute} {value : Value}
  (stated : tree.stat path = .ok (.file content)) (typed : dialectOf path = some dialect)
  (parsed : documentAttributes dialect path content.toList = .ok (attributes, []))
  (named : entryNamed attributes recipesAttribute = some found) (evaluated : found.evaluate = (value, []))
include stated typed parsed named evaluated

theorem load_not_list (notList : value.isNull = true ∨ value.isSequence = false) :
    (load tree logger path).1 = .error (.malformedTable path "'recipes' must be a list" none) := by
  have refused : value.isNull = true ∨ (!value.isSequence) = true := by simpa using notList
  rw [← listReason_eq]
  simp only [load, stated, typed, parsed, named, evaluated, List.isEmpty_nil, Bool.not_true, if_pos refused,
    Bool.false_eq_true, if_false]

theorem load_first_misshapen (null : value.isNull = false) (sequence : value.isSequence = true)
    {index : Nat} {element : Value} (present : value.elements[index]? = some element)
    (misshapen : ¬RecordShaped element)
    (before : ∀ earlierIndex < index, ∀ earlier, value.elements[earlierIndex]? = some earlier → RecordShaped earlier) :
    (load tree logger path).1 =
      .error (.malformedTable path ("recipe entry #" ++ toString (index + 1) ++ " must be an object") none) := by
  have listed : ¬(value.isNull = true ∨ (!value.isSequence) = true) := by simp [null, sequence]
  simp only [load, stated, typed, parsed, named, evaluated, List.isEmpty_nil, Bool.not_true, if_neg listed,
    Bool.false_eq_true, if_false, find?_refused_first present misshapen before]

theorem load_records (null : value.isNull = false) (sequence : value.isSequence = true)
    (shaped : ∀ element ∈ value.elements, RecordShaped element) :
    (load tree logger path).1 =
      .ok ⟨path, value.elements.zipIdx.map fun entry => (⟨entry.2, entry.1⟩ : Record)⟩ := by
  have listed : ¬(value.isNull = true ∨ (!value.isSequence) = true) := by simp [null, sequence]
  simp only [load, stated, typed, parsed, named, evaluated, List.isEmpty_nil, Bool.not_true, if_neg listed,
    Bool.false_eq_true, if_false, find?_refused_none shaped]

/-- The recipe list loads exactly when it is a list of entries that can all be records. -/
theorem load_ok_iff :
    (∃ table, (load tree logger path).1 = .ok table) ↔
      value.isNull = false ∧ value.isSequence = true ∧ ∀ element ∈ value.elements, RecordShaped element := by
  constructor
  · rintro ⟨table, loaded⟩
    -- a value that is no list, or a misshapen entry, would have been refused
    by_cases listed : value.isNull = false ∧ value.isSequence = true
    · refine ⟨listed.1, listed.2, fun element member => ?_⟩
      by_contra misshapen
      obtain ⟨index, first, present, firstMisshapen, before⟩ := exists_first_misshapen member misshapen
      rw [load_first_misshapen stated typed parsed named evaluated listed.1 listed.2 present firstMisshapen before] at loaded
      cases loaded
    · have notList : value.isNull = true ∨ value.isSequence = false := by
        cases null : value.isNull <;> cases sequence : value.isSequence <;> simp_all
      rw [load_not_list stated typed parsed named evaluated notList] at loaded
      cases loaded
  · rintro ⟨null, sequence, shaped⟩
    exact ⟨_, load_records stated typed parsed named evaluated null sequence shaped⟩

end Parsed

/-- How the recipe table at a path loads. -/
structure LoadsRecipes (tree : Tree) (logger : Logging.Logger) (path : String) : Prop where
  missing : ∀ problem, tree.stat path = .error problem → problem.errno = .notFound →
    (load tree logger path).1 = .error (.malformedTable path "recipe table not found" none)
  inaccessible : ∀ problem, tree.stat path = .error problem → problem.errno ≠ .notFound →
    (load tree logger path).1 = .error (.malformedTable path "cannot access recipe table" (some problem.message))
  directory : tree.stat path = .ok .directory →
    (load tree logger path).1 = .error (.malformedTable path "recipe table is a directory" none)
  dialects : dialectOf path ≠ none ↔
    Text.lowerText (Path.ext path) = ".json" ∨ Text.lowerText (Path.ext path) = ".hcl"
  unsupported : ∀ content, tree.stat path = .ok (.file content) → dialectOf path = none →
    (load tree logger path).1 = .error (.malformedTable path "unsupported table format, expected .json or .hcl" none)
  absent : ∀ content dialect attributes, tree.stat path = .ok (.file content) → dialectOf path = some dialect →
    documentAttributes dialect path content.toList = .ok (attributes, []) →
    entryNamed attributes recipesAttribute = none →
    (load tree logger path).1 = .error (.malformedTable path "'recipes' must be a list" none)
  evaluated : ∀ content dialect attributes found value, tree.stat path = .ok (.file content) →
    dialectOf path = some dialect → documentAttributes dialect path content.toList = .ok (attributes, []) →
    entryNamed attributes recipesAttribute = some found → found.evaluate = (value, []) →
    ((∃ table, (load tree logger path).1 = .ok table) ↔
      value.isNull = false ∧ value.isSequence = true ∧ ∀ element ∈ value.elements, RecordShaped element) ∧
    (value.isNull = true ∨ value.isSequence = false →
      (load tree logger path).1 = .error (.malformedTable path "'recipes' must be a list" none)) ∧
    (value.isNull = false → value.isSequence = true → ∀ index element, value.elements[index]? = some element →
      ¬RecordShaped element →
      (∀ earlierIndex < index, ∀ earlier, value.elements[earlierIndex]? = some earlier → RecordShaped earlier) →
      (load tree logger path).1 =
        .error (.malformedTable path ("recipe entry #" ++ toString (index + 1) ++ " must be an object") none)) ∧
    (value.isNull = false → value.isSequence = true → (∀ element ∈ value.elements, RecordShaped element) →
      ∃ records : List Record, (load tree logger path).1 = .ok ⟨path, records⟩ ∧ records.length = value.elements.length ∧
        ∀ index, records[index]? = value.elements[index]?.map fun element => (⟨index, element⟩ : Record))

theorem dialectOf_ne_none_iff (path : String) :
    dialectOf path ≠ none ↔ Text.lowerText (Path.ext path) = ".json" ∨ Text.lowerText (Path.ext path) = ".hcl" := by
  unfold dialectOf
  split <;> simp_all

/-- Loading the recipe table is refused at the first failing check; otherwise the records are
the entries with their positions. -/
theorem load_recipes (tree : Tree) (logger : Logging.Logger) (path : String) : LoadsRecipes tree logger path where
  missing problem failed absent := by
    have notFound : (problem.errno == .notFound) = true := by rw [absent]; rfl
    simp only [load, failed, notFound, if_true]
  inaccessible problem failed other := by
    have found : (problem.errno == .notFound) = false := by
      cases errno : problem.errno with
      | notFound => exact absurd errno other
      | _ => rfl
    simp only [load, failed, found, Bool.false_eq_true, if_false]
  directory isDirectory := by simp only [load, isDirectory]
  dialects := dialectOf_ne_none_iff path
  unsupported content stated unknown := by simp only [load, stated, unknown]
  absent content dialect attributes stated typed parsed missing := by
    rw [← listReason_eq]
    simp only [load, stated, typed, parsed, missing, List.isEmpty_nil, Bool.not_true, Bool.false_eq_true, if_false]
  evaluated content dialect attributes found value stated typed parsed named evaluated :=
    ⟨load_ok_iff stated typed parsed named evaluated, load_not_list stated typed parsed named evaluated,
      fun null sequence _ _ present misshapen before =>
        load_first_misshapen stated typed parsed named evaluated null sequence present misshapen before,
      fun null sequence shaped =>
        ⟨_, load_records stated typed parsed named evaluated null sequence shaped, by simp,
          getElem?_records value.elements⟩⟩

end Alembic.Table
