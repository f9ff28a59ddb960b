import Alembic.Resource.Document
/-! # The registry of external resources -/

namespace Alembic.Resource

/-- The external resources of one document: the id of each registered path, and the entries in
order of first registration. -/
structure Registry where
  ids : List (String × Int) := []
  entries : List External := []

namespace Registry

/-- The id of a path, when it is registered. -/
def handle? (registry : Registry) (path : String) : Option Int :=
  registry.ids.lookup path

def size (registry : Registry) : Nat := registry.entries.length

/-- Steps to load the document: its resources and itself. -/
def loadSteps (registry : Registry) : Nat := registry.size + 1

/-- The id of the path, registering it with the kind if it is new. -/
def register (registry : Registry) (kind path : String) : Int × Registry :=
  match registry.handle? path with
  | some id => (id, registry)
  | none =>
    let id : Int := registry.size + 1
    (id, { ids := (path, id) :: registry.ids, entries := registry.entries ++ [⟨kind, path, id⟩] })

theorem register_registered (registry : Registry) (kind path : String) (id : Int)
    (found : registry.handle? path = some id) :
    registry.register kind path = (id, registry) := by
  simp [register, found]

theorem size_register (registry : Registry) (kind path : String)
    (fresh : registry.handle? path = none) :
    (registry.register kind path).2.size = registry.size + 1 := by
  simp [register, fresh, size]

/-- A new path is found under the id it was just given; every other path keeps its id. -/
theorem handle?_register_fresh (registry : Registry) (kind : String) {path : String}
    (fresh : registry.handle? path = none) (other : String) :
    (registry.register kind path).2.handle? other =
      if other = path then some ((registry.size + 1 : Nat) : Int) else registry.handle? other := by
  unfold register
  rw [fresh]
  by_cases same : other = path
  · simp [handle?, same]
  · simp [handle?, same, List.lookup_cons, beq_false_of_ne same]

end Registry

end Alembic.Resource
