import Stencil.Members
import Stencil.Number

/-!
# Documents

A value is what a document holds.  The members of an object keep the order in
which they were first written, and every walk over an object follows it.
-/

namespace Stencil

/-- A document: null, a scalar or a container of documents. -/
inductive Value where
  | null
  | bool (truth : Bool)
  | number (quantity : Number)
  | text (content : String)
  | array (items : List Value)
  | object (members : List (String × Value))

namespace Value

instance : Inhabited Value := ⟨.null⟩

/-- A natural number as a value. -/
def ofNat (value : Nat) : Value :=
  .number (.ofNat value)

/-- An integer as a value. -/
def ofInt (value : Int) : Value :=
  .number (.ofInt value)

/-- The object without members. -/
def emptyObject : Value := .object []

/-- Whether a value is an array or an object. -/
def isContainer : Value → Bool
  | .array _ | .object _ => true
  | _ => false

/-- The name of the type of a value. -/
def typeName : Value → String
  | .null => "null"
  | .bool _ => "boolean"
  | .number _ => "number"
  | .text _ => "string"
  | .array _ => "array"
  | .object _ => "object"

/-- The place of the type of a value among the six types. -/
def typeRank : Value → Nat
  | .null => 0
  | .bool _ => 1
  | .number _ => 2
  | .text _ => 3
  | .array _ => 4
  | .object _ => 5

/-- Children of a container; a scalar is a sequence of one and null is empty. -/
def elements : Value → List Value
  | .null => []
  | .array items => items
  | .object members => members.map Prod.snd
  | scalar => [scalar]

/-- Number the items of a sequence from `start` on. -/
def numbered (start : Nat) : List Value → List (Nat × Value)
  | [] => []
  | item :: rest => (start, item) :: numbered (start + 1) rest

/-- The children of a value, each paired with its index or member name. -/
def entries : Value → List Value
  | .null => []
  | .array items =>
    (numbered 0 items).map fun entry => .array [.ofNat entry.1, entry.2]
  | .object members => members.map fun entry => .array [.text entry.1, entry.2]
  | scalar => [.array [.ofNat 0, scalar]]

/-- Whether a value counts as true: neither null, false, a zero nor an empty text. -/
def isTruthy : Value → Bool
  | .null => false
  | .bool truth => truth
  | .number quantity => !quantity.toBinary64.isZero
  | .text content => !content.isEmpty
  | .array _ | .object _ => true

/-- The text of a text value. -/
def asText? : Value → Option String
  | .text content => some content
  | _ => none

/-- The items of an array. -/
def asItems? : Value → Option (List Value)
  | .array items => some items
  | _ => none

/-- The members of an object. -/
def asMembers? : Value → Option (List (String × Value))
  | .object members => some members
  | _ => none

/-- The member of an object with a name. -/
def member? (value : Value) (name : String) : Option Value :=
  value.asMembers?.bind fun members => members.lookup name

/-- The item of an array at an index. -/
def item? (value : Value) (index : Nat) : Option Value :=
  value.asItems?.bind fun items => items[index]?

/-- The object written by a sequence of members: a repeated name keeps its first place
and its last value. -/
def ofMembers (members : List (String × Value)) : Value :=
  .object (Members.gather members)

end Value

end Stencil
