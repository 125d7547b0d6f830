import Stencil.Path.Segment

/-!
# Writing into documents

A location is followed from the root of a document, and a value is written at a
location: containers on the way are made where they are missing, whatever stands
in their place is replaced, and an array is padded with nulls up to the index.
How far an index may lie behind the end of its array is limited.
-/

namespace Stencil.Value

/-- How many nulls may pad an array in front of an index that is written. -/
def paddingLimit : Nat := 1024

/-- What a location leads to. -/
def at? (document : Value) : Location → Option Value
  | [] => some document
  | .member name :: rest => (document.member? name).bind fun child => child.at? rest
  | .index position :: rest =>
    (document.item? position).bind fun child => child.at? rest

/-- The members of an object; none for any other value. -/
def membersOrNone (value : Value) : Members Value :=
  value.asMembers?.getD []

/-- The items of an array; none for any other value. -/
def itemsOrNone (value : Value) : List Value :=
  value.asItems?.getD []

/-- Items with as many nulls behind them as make room for an index. -/
def padTo (position : Nat) (items : List Value) : List Value :=
  items ++ List.replicate (position + 1 - items.length) .null

/-- The document with a value written at a location. -/
def put : Value → Location → Value → Value
  | _, [], value => value
  | target, .member name :: rest, value =>
    let members := target.membersOrNone
    let child := (members.lookup name).getD .null
    .object (Members.put name (child.put rest value) members)
  | target, .index position :: rest, value =>
    let items := padTo position target.itemsOrNone
    let child := (items[position]?).getD .null
    .array (items.set position (child.put rest value))

/--
The first index on the way that lies too far behind the end of its array, with
the length of that array.  Where nothing is found any more, arrays are empty.
-/
def paddingFault? (document : Option Value) : Location → Option (Nat × Nat)
  | [] => none
  | .member name :: rest =>
    paddingFault? (document.bind fun parent => parent.member? name) rest
  | .index position :: rest =>
    let length := (document.map fun parent => parent.itemsOrNone.length).getD 0
    if length + paddingLimit < position then some (position, length)
    else paddingFault? (document.bind fun parent => parent.item? position) rest

@[simp]
theorem put_nil (document value : Value) : document.put [] value = value :=
  rfl

@[simp]
theorem at?_nil (document : Value) : document.at? [] = some document :=
  rfl

end Stencil.Value
