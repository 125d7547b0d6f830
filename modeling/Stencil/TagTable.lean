import Stencil.Path.Address
import Stencil.TagTable.Document

/-!
# Tag tables

A tag table keeps the values recorded during a pass.  They live together in one
document, and the table remembers which locations were written, in the order of
their first writes.  Every reading goes through the document, so a write to a
parent or a child of a recorded location is seen under both.
-/

namespace Stencil

/-- A location that was written, with its canonical text. -/
structure TagRecord where
  /-- The canonical text of the location. -/
  key : String
  /-- The location. -/
  location : Location
deriving DecidableEq

/-- The values recorded during a pass. -/
structure TagTable where
  /-- The locations written, in the order of their first writes. -/
  records : List TagRecord := []
  /-- The values, each at its location. -/
  document : Value := Value.emptyObject

namespace TagTable

instance : Inhabited TagTable := ⟨{}⟩

/-- The record with a key. -/
def record? (table : TagTable) (key : String) : Option TagRecord :=
  table.records.find? fun record => record.key == key

/-- The table with a value written at a location, recorded under a key. -/
def write (table : TagTable) (record : TagRecord) (value : Value) : TagTable where
  records :=
    if (table.record? record.key).isSome then table.records else table.records ++ [record]
  document := table.document.put record.location value

/-- Record a value at a path; what was there before is returned with the table. -/
def insert (table : TagTable) (path : String) (value : Value) :
    Except PathError (Option Value × TagTable) :=
  match Path.locate path with
  | .error error => .error error
  | .ok location =>
    let key := location.text
    match Value.paddingFault? (some table.document) location with
    | some (position, length) => .error (.indexOutOfRange key position length)
    | none => .ok (table.document.at? location, table.write ⟨key, location⟩ value)

/-- The value recorded at a path, if it was written and is still there. -/
def get? (table : TagTable) (path : String) : Option Value :=
  match Path.canonical path with
  | .error _ => none
  | .ok key =>
    (table.record? key).bind fun record => table.document.at? record.location

/-- Whether a value is recorded at a path. -/
def contains (table : TagTable) (path : String) : Bool :=
  (table.get? path).isSome

/-- The recorded values that are still there, in the order of their first writes. -/
def entries (table : TagTable) : List (String × Value) :=
  table.records.filterMap fun record =>
    (table.document.at? record.location).map fun value => (record.key, value)

/-- How many recorded values are still there. -/
def size (table : TagTable) : Nat :=
  table.entries.length

/-- Whether no recorded value is there. -/
def isEmpty (table : TagTable) : Bool :=
  table.size == 0

/-- The recorded values as an object. -/
def toValue (table : TagTable) : Value :=
  Value.ofMembers table.entries

end TagTable

end Stencil
