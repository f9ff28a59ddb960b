import Alembic.Number.Precise
/-! # Table values -/

namespace Alembic.Table

/-- The type of a table value. `dynamic` stands for any type: a null without a type of its own
has it, and a conversion to it keeps a value as it is. -/
inductive Ty where
  | string
  | number
  | bool
  | dynamic
  | object (attributes : List (String × Ty))
  | tuple (elements : List Ty)
  | map (element : Ty)
  | list (element : Ty)
  deriving BEq, Repr, Inhabited

/-- A member of an association list is smaller than the list. -/
theorem sizeOf_snd_lt_of_mem {α β : Type} [SizeOf α] [SizeOf β] {p : α × β}
    {entries : List (α × β)} (member : p ∈ entries) : sizeOf p.2 < sizeOf entries := by
  have := List.sizeOf_lt_of_mem member
  cases p
  simp at *
  omega

namespace Ty

def isPrimitive : Ty → Bool
  | .string | .number | .bool => true
  | _ => false

/-- How the type is named in messages. -/
def friendlyName : Ty → String
  | .string => "string"
  | .number => "number"
  | .bool => "bool"
  | .dynamic => "dynamic"
  | .object _ => "object"
  | .tuple _ => "tuple"
  | .map element => "map of " ++ element.friendlyName
  | .list element => "list of " ++ element.friendlyName

end Ty

/-- A table value. -/
inductive Value where
  | null (type : Ty)
  /-- The value of an expression that could not be evaluated. -/
  | unknown (type : Ty)
  | string (text : String)
  | number (value : Precise)
  | bool (value : Bool)
  | object (attributes : List (String × Value))
  | tuple (elements : List Value)
  | map (element : Ty) (entries : List (String × Value))
  | list (element : Ty) (elements : List Value)
  deriving Inhabited

/-- Sets the entry of a name in a sorted association list, replacing an entry of that name. -/
def setEntry {α : Type} : List (String × α) → String → α → List (String × α)
  | [], name, value => [(name, value)]
  | (key, old) :: rest, name, value =>
    if name = key then (name, value) :: rest
    else if name < key then (name, value) :: (key, old) :: rest
    else (key, old) :: setEntry rest name value

/-- The entry of a name in an association list. -/
def entryNamed {α : Type} (entries : List (String × α)) (name : String) : Option α :=
  (entries.find? fun entry => entry.1 == name).map Prod.snd

/-- A sorted association list of the given entries; a later entry replaces an earlier one. -/
def sortedEntries {α : Type} (entries : List (String × α)) : List (String × α) :=
  entries.foldl (fun sorted entry => setEntry sorted entry.1 entry.2) []

theorem setEntry_lookup {α : Type} (entries : List (String × α)) (name : String) (value : α) :
    entryNamed (setEntry entries name value) name = some value := by
  induction entries with
  | nil => simp [setEntry, entryNamed]
  | cons head rest ih =>
    obtain ⟨key, old⟩ := head
    unfold setEntry
    by_cases same : name = key
    · simp [same, entryNamed]
    · by_cases before : name < key
      · simp [same, before, entryNamed]
      · have differ : (key == name) = false := by
          simp only [beq_eq_false_iff_ne]; exact fun h => same h.symm
        simp only [same, before, if_false]
        simpa [entryNamed, List.find?, differ] using ih

namespace Value

/-- The type of a value. -/
def type : Value → Ty
  | .null type => type
  | .unknown type => type
  | .string _ => .string
  | .number _ => .number
  | .bool _ => .bool
  | .object attributes => .object (attributes.map fun entry => (entry.1, entry.2.type))
  | .tuple elements => .tuple (elements.map fun element => element.type)
  | .map element _ => .map element
  | .list element _ => .list element
decreasing_by
  all_goals first
    | (simp_wf; have hmem := sizeOf_snd_lt_of_mem ‹_ ∈ _›; omega)
    | decreasing_tactic

def isNull : Value → Bool
  | .null _ => true
  | _ => false

def isKnown : Value → Bool
  | .unknown _ => false
  | _ => true

/-- Whether the value is an object or a map, the shapes that hold named fields. -/
def isObjectLike : Value → Bool
  | .object _ | .map .. => true
  | _ => false

/-- Whether the value is a tuple or a list, the shapes that hold a sequence. -/
def isSequence : Value → Bool
  | .tuple _ | .list .. => true
  | _ => false

/-- The attribute or map element of a name. -/
def lookup (value : Value) (name : String) : Option Value :=
  match value with
  | .object attributes => entryNamed attributes name
  | .map _ entries => entryNamed entries name
  | _ => none

/-- The elements of a tuple or list, in order. -/
def elements : Value → List Value
  | .tuple elements => elements
  | .list _ elements => elements
  | _ => []

/-- Why a value has no JSON form, if it has none: JSON writes no infinity. -/
def jsonProblem? : Value → Option String
  | .number value => if value.isInfinite then some "cannot serialize infinity as JSON" else none
  | .object attributes => attributes.attach.findSome? fun ⟨entry, _⟩ => entry.2.jsonProblem?
  | .map _ entries => entries.attach.findSome? fun ⟨entry, _⟩ => entry.2.jsonProblem?
  | .tuple elements => elements.attach.findSome? fun ⟨element, _⟩ => element.jsonProblem?
  | .list _ elements => elements.attach.findSome? fun ⟨element, _⟩ => element.jsonProblem?
  | _ => none
decreasing_by
  all_goals first
    | (simp_wf; have hmem := sizeOf_snd_lt_of_mem ‹_ ∈ _›; omega)
    | (simp_wf; have hmem := List.sizeOf_lt_of_mem ‹_ ∈ _›; omega)

/-- The number of entries of a structure. -/
def length : Value → Nat
  | .object attributes => attributes.length
  | .tuple elements => elements.length
  | .map _ entries => entries.length
  | .list _ elements => elements.length
  | _ => 0

end Value

end Alembic.Table
