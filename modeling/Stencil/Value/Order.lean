import Stencil.Value.Text

/-!
# The order of documents

Values of different types are ordered by type.  Numbers are compared
numerically, texts by code points and arrays item by item.  Objects are equal
when they hold the same members in any order; otherwise the smaller comes
first, and objects of one size are ordered by their compact texts.
-/

namespace Stencil.Value

mutual

/-- Sameness of documents, whatever the order of the members of their objects. -/
def same : Value → Value → Bool
  | .null, .null => true
  | .bool left, .bool right => left == right
  | .number left, .number right => left.same right
  | .text left, .text right => left == right
  | .array left, .array right => sameItems left right
  | .object left, .object right =>
    left.length == right.length && sameMembers left right
  | _, _ => false

/-- Sameness of the items of two arrays. -/
def sameItems : List Value → List Value → Bool
  | [], [] => true
  | left :: leftRest, right :: rightRest =>
    same left right && sameItems leftRest rightRest
  | _, _ => false

/-- Whether every member on the left is found, the same, on the right. -/
def sameMembers : List (String × Value) → List (String × Value) → Bool
  | [], _ => true
  | (name, left) :: rest, members =>
    (match members.lookup name with
      | some right => same left right
      | none => false) && sameMembers rest members

end

mutual

/-- The order of documents. -/
def compare : Value → Value → Ordering
  | .null, .null => .eq
  | .bool left, .bool right => Ord.compare left right
  | .number left, .number right => left.compare right
  | .text left, .text right => Ord.compare left right
  | .array left, .array right => compareItems left right
  | .object left, .object right =>
    if same (.object left) (.object right) then .eq
    else
      (Ord.compare left.length right.length).then
        (Ord.compare (compact (.object left)) (compact (.object right)))
  | left, right => Ord.compare left.typeRank right.typeRank

/-- The order of the items of two arrays; an array comes before its continuations. -/
def compareItems : List Value → List Value → Ordering
  | [], [] => .eq
  | [], _ :: _ => .lt
  | _ :: _, [] => .gt
  | left :: leftRest, right :: rightRest =>
    (compare left right).then (compareItems leftRest rightRest)

end

/-- The field of an item, by member name or by index; null when there is none. -/
def field (name : String) : Value → Value
  | .object members => (members.lookup name).getD .null
  | .array items =>
    ((Numeral.count? name.toList).bind fun index => items[index]?).getD .null
  | _ => .null

end Stencil.Value

namespace Stencil

/-- How items are ordered by one of their fields. -/
structure FieldOrder where
  /-- The name of the field, or its index in arrays. -/
  name : String
  /-- What is compared instead of the field's own value. -/
  image : Option (Value → Value) := none
  /-- Whether the greatest comes first. -/
  descending : Bool := false

namespace FieldOrder

/-- What is compared of an item. -/
def key (order : FieldOrder) (item : Value) : Value :=
  match order.image with
  | some image => image (Value.field order.name item)
  | none => Value.field order.name item

/-- The order of two items. -/
def compare (order : FieldOrder) (left right : Value) : Ordering :=
  if order.descending then (order.key right).compare (order.key left)
  else (order.key left).compare (order.key right)

end FieldOrder

end Stencil
