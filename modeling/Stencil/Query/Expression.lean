import Stencil.Value.Basic

/-!
# Queries

A query follows segments from an anchor.  Each segment takes every node reached
so far to the nodes that its selectors pick, among the children or among all
descendants.  A filter keeps the children that satisfy a condition, which may
run queries of its own from the child or from the document.
-/

namespace Stencil

/-- Where a query starts: at the document or at the node under a filter. -/
inductive Anchor where
  | document
  | current
deriving DecidableEq

/-- One step of a compared query, which picks at most one node. -/
inductive CompareStep where
  | member (name : String)
  | index (position : Int)
deriving DecidableEq

/-- The ways in which two operands are compared. -/
inductive Comparison where
  | equal
  | different
  | less
  | lessEqual
  | greater
  | greaterEqual
deriving DecidableEq

/-- The bounds of a slice; the ones left out depend on the direction of the stride. -/
structure Slice where
  /-- The first position. -/
  first : Option Int := none
  /-- The position behind the last. -/
  last : Option Int := none
  /-- The distance between positions. -/
  stride : Option Int := none
deriving DecidableEq

mutual

/-- What picks nodes among the children of a node. -/
inductive Selector where
  | member (name : String)
  | wildcard
  | index (position : Int)
  | slice (bounds : Slice)
  | filter (condition : Condition)

/-- One segment of a query. -/
inductive QuerySegment where
  | children (selectors : List Selector)
  | descendants (selectors : List Selector)

/-- What a filter asks of a node. -/
inductive Condition where
  | either (left right : Condition)
  | both (left right : Condition)
  | negation (condition : Condition)
  | nonempty (anchor : Anchor) (segments : List QuerySegment)
  | comparison (kind : Comparison) (left right : Operand)
  | matching (whole : Bool) (subject form : Operand)

/-- What is compared or handed to a function. -/
inductive Operand where
  | literal (value : Value)
  | compared (anchor : Anchor) (steps : List CompareStep)
  | single (anchor : Anchor) (segments : List QuerySegment)
  | length (argument : Operand)
  | count (anchor : Anchor) (segments : List QuerySegment)
  | only (anchor : Anchor) (segments : List QuerySegment)

end

/-- A query from the document. -/
structure Query where
  /-- The segments, followed in order. -/
  segments : List QuerySegment

namespace QuerySegment

/-- Whether a segment picks at most one node by a name or a position. -/
def isSingular : QuerySegment → Bool
  | .children [.member _] | .children [.index _] => true
  | _ => false

end QuerySegment

end Stencil
