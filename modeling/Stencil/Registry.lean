import Stencil.Members

/-!
# Registries

A registry finds items by name.  Registering a name again replaces its item, so
each name stands for at most one item, and the names are listed in order.
-/

namespace Stencil

/-- Items by name. -/
structure Registry (Item : Type) where
  /-- The registered names with their items. -/
  entries : Members Item := []

namespace Registry

variable {Item : Type}

instance : Inhabited (Registry Item) := ⟨{}⟩

/-- Register an item; the one that had the name before is replaced. -/
def insert (registry : Registry Item) (name : String) (item : Item) : Registry Item :=
  ⟨Members.put name item registry.entries⟩

/-- The registry of a sequence of names with their items. -/
def ofList (entries : List (String × Item)) : Registry Item :=
  ⟨Members.gather entries⟩

/-- The item with a name. -/
def get? (registry : Registry Item) (name : String) : Option Item :=
  registry.entries.lookup name

/-- Whether a name is registered. -/
def contains (registry : Registry Item) (name : String) : Bool :=
  (registry.get? name).isSome

/-- The registered names in the order of their code points. -/
def names (registry : Registry Item) : List String :=
  (registry.entries.map Prod.fst).mergeSort fun left right => decide (left ≤ right)

/-- How many names are registered. -/
def size (registry : Registry Item) : Nat :=
  registry.entries.length

/-- Whether no name is registered. -/
def isEmpty (registry : Registry Item) : Bool :=
  registry.entries.isEmpty

end Registry

end Stencil
