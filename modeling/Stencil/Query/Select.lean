import Stencil.Query.Expression
import Stencil.Query.Pattern.Reader
import Stencil.Value.Order

/-!
# The nodes of a query

A query yields nodes in the order in which they are reached: selectors in the
order written, children in document order, and a node before its descendants.
An operand without a value, such as a query without a node, equals another
operand without a value and nothing else.
-/

namespace Stencil

namespace Slice

/-- A position counted from the end when it is negative. -/
def absolute (size position : Int) : Int :=
  if position < 0 then size + position else position

/-- A number moved into a range. -/
def clamp (low high number : Int) : Int :=
  max low (min high number)

/-- The positions of a slice of a sequence with a size, in order. -/
def positions (bounds : Slice) (size : Nat) : List Nat :=
  let length : Int := size
  let stride := bounds.stride.getD 1
  if stride = 0 then []
  else if 0 < stride then
    let low := clamp 0 length (absolute length (bounds.first.getD 0))
    let high := clamp 0 length (absolute length (bounds.last.getD length))
    let count := ((high - low + stride - 1) / stride).toNat
    (List.range count).map fun (round : Nat) => (low + round * stride).toNat
  else
    let high := clamp (-1) (length - 1) (absolute length (bounds.first.getD (length - 1)))
    let low := clamp (-1) (length - 1) (absolute length (bounds.last.getD (-length - 1)))
    let count := ((high - low - stride - 1) / -stride).toNat
    (List.range count).map fun (round : Nat) => (high + round * stride).toNat

end Slice

namespace Value

/-- The item of an array at a position, counted from the end when it is negative. -/
def position? (value : Value) (position : Int) : Option Value :=
  value.asItems?.bind fun items =>
    let place := Slice.absolute items.length position
    if place < 0 then none else items[place.toNat]?

/-- The children of a container in document order; scalars have none. -/
def children : Value → List Value
  | .array items => items
  | .object members => members.map Prod.snd
  | _ => []

mutual

/-- A value and all values inside it, each before its own children. -/
def subtree : Value → List Value
  | .array items => .array items :: subtreeItems items
  | .object members => .object members :: subtreeMembers members
  | scalar => [scalar]

/-- The items of an array and all values inside them. -/
def subtreeItems : List Value → List Value
  | [] => []
  | item :: rest => subtree item ++ subtreeItems rest

/-- The members of an object and all values inside them. -/
def subtreeMembers : List (String × Value) → List Value
  | [] => []
  | (_, item) :: rest => subtree item ++ subtreeMembers rest

end

/-- The number of characters, items or members of a value that has them. -/
def size? : Value → Option Nat
  | .text content => some content.length
  | .array items => some items.length
  | .object members => some members.length
  | _ => none

/-- Sameness in a comparison, where numbers of both sorts are compared as doubles. -/
def alike : Value → Value → Bool
  | .number left, .number right => left.toBinary64.compare right.toBinary64 == .eq
  | left, right => same left right

/-- Whether a number or a text comes before another one. -/
def precedes : Value → Value → Bool
  | .number left, .number right => left.toBinary64.compare right.toBinary64 == .lt
  | .text left, .text right => Ord.compare left right == .lt
  | _, _ => false

end Value

namespace Comparison

/-- Sameness of two operands; those without a value are the same. -/
def alike : Option Value → Option Value → Bool
  | some left, some right => left.alike right
  | none, none => true
  | _, _ => false

/-- Whether one operand with a value comes before another. -/
def precedes : Option Value → Option Value → Bool
  | some left, some right => left.precedes right
  | _, _ => false

/-- Whether a comparison holds. -/
def holds (kind : Comparison) (left right : Option Value) : Bool :=
  match kind with
  | .equal => alike left right
  | .different => !alike left right
  | .less => precedes left right
  | .lessEqual => precedes left right || alike left right
  | .greater => precedes right left
  | .greaterEqual => precedes right left || alike left right

end Comparison

namespace CompareStep

/-- The node a step leads to; a negative position leads nowhere. -/
def follow (step : CompareStep) (node : Value) : Option Value :=
  match step with
  | .member name => node.member? name
  | .index position => if position < 0 then none else node.item? position.toNat

end CompareStep

/-- The node that steps lead to. -/
def followSteps : List CompareStep → Value → Option Value
  | [], node => some node
  | step :: rest, node => (step.follow node).bind (followSteps rest)

namespace Anchor

/-- The node a query starts at. -/
def node (anchor : Anchor) (root current : Value) : Value :=
  match anchor with
  | .document => root
  | .current => current

end Anchor

mutual

/-- The nodes that a selector picks among the children of a node. -/
def Selector.pick (root node : Value) : Selector → List Value
  | .member name => (node.member? name).toList
  | .wildcard => node.children
  | .index position => (node.position? position).toList
  | .slice bounds =>
    match node.asItems? with
    | some items => (bounds.positions items.length).filterMap fun place => items[place]?
    | none => []
  | .filter condition => node.children.filter fun child => condition.holds root child

/-- The nodes that selectors pick, in the order of the selectors. -/
def pickAll (root node : Value) : List Selector → List Value
  | [] => []
  | selector :: rest => selector.pick root node ++ pickAll root node rest

/-- The nodes that a segment leads to from one node. -/
def QuerySegment.follow (root node : Value) : QuerySegment → List Value
  | .children selectors => pickAll root node selectors
  | .descendants selectors =>
    node.subtree.flatMap fun inner => pickAll root inner selectors

/-- The nodes that segments lead to from the nodes reached so far. -/
def followSegments (root : Value) (nodes : List Value) : List QuerySegment → List Value
  | [] => nodes
  | segment :: rest =>
    followSegments root (nodes.flatMap fun node => segment.follow root node) rest

/-- Whether a node satisfies a condition. -/
def Condition.holds (root node : Value) : Condition → Bool
  | .either left right => left.holds root node || right.holds root node
  | .both left right => left.holds root node && right.holds root node
  | .negation condition => !condition.holds root node
  | .nonempty anchor segments =>
    !(followSegments root [anchor.node root node] segments).isEmpty
  | .comparison kind left right =>
    kind.holds (left.evaluate root node) (right.evaluate root node)
  | .matching whole subject form =>
    match subject.evaluate root node, form.evaluate root node with
    | some (.text text), some (.text written) => Pattern.accepts whole written text
    | _, _ => false

/-- The value of an operand, if it has one. -/
def Operand.evaluate (root node : Value) : Operand → Option Value
  | .literal value => some value
  | .compared anchor steps => followSteps steps (anchor.node root node)
  | .single anchor segments =>
    (followSegments root [anchor.node root node] segments).head?
  | .length argument =>
    ((argument.evaluate root node).bind Value.size?).map Value.ofNat
  | .count anchor segments =>
    some (.ofNat (followSegments root [anchor.node root node] segments).length)
  | .only anchor segments =>
    match followSegments root [anchor.node root node] segments with
    | [found] => some found
    | _ => none

end

namespace Query

/-- The nodes of a document that a query picks. -/
def select (query : Query) (document : Value) : List Value :=
  followSegments document [document] query.segments

end Query

end Stencil
