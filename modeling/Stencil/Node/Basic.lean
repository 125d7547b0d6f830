import Stencil.Operator.Take
import Stencil.Operator.Constraint
import Stencil.Operator.Symbol
import Stencil.Operator.Inception
import Stencil.Value.Basic

/-!
# Nodes

A node is one unit of a template: a path, the operators and pipes declared on
it and what evaluation has found so far.  The value of a node is undefined
until a stage sets it, and undefined is not null.
-/

namespace Stencil

/-- The operators of a node, at most one of each family. -/
structure Operators where
  /-- How many matches are kept. -/
  query : Option Take := none
  /-- What supplies a missing value. -/
  constraint : Option Constraint := none
  /-- What the value is recorded under. -/
  symbol : Option SymbolOperator := none
  /-- How a container is expanded. -/
  enumerate : Option Enumeration := none
  /-- How templates below are composed. -/
  inception : Option Inception := none
deriving DecidableEq

namespace Operators

/-- Whether no operator is declared. -/
def isEmpty (operators : Operators) : Bool :=
  operators.query.isNone && operators.constraint.isNone && operators.symbol.isNone
    && operators.enumerate.isNone && operators.inception.isNone

end Operators

/-- The marker of the stage that last set the value of a node. -/
abbrev Mark := UInt8

namespace Mark

/-- The value is a literal: no path was followed. -/
def literal : Mark := 0

/-- The path was followed. -/
def dereference : Mark := 1

/-- The matches were collapsed. -/
def query : Mark := 2

/-- A constraint was applied. -/
def constraint : Mark := 2

/-- The value was recorded. -/
def symbol : Mark := 2

/-- A container was expanded. -/
def enumerate : Mark := 4

/-- The pipes were run. -/
def pipe : Mark := 5

/-- Templates were composed. -/
def inception : Mark := 5

end Mark

/-- One unit of a template. -/
structure Node where
  /-- The path, bare or root-qualified. -/
  path : String := ""
  /-- The declared operators. -/
  operators : Operators := {}
  /-- The declared pipes, by ordinal key. -/
  pipes : Option (List (String × Value)) := none
  /-- What was found; nothing while it is undefined. -/
  value : Option Value := none
  /-- The stage that set the value. -/
  mark : Mark := Mark.literal
  /-- The canonical path the value was recorded under. -/
  tag : Option String := none
  /-- The mode of the inception, once it is prepared. -/
  mode : Option InceptionMode := none
  /-- The depth of the inception, once it is prepared. -/
  depth : Option Depth := none

namespace Node

instance : Inhabited Node := ⟨{}⟩

/-- The node with a new value and the marker of the stage that set it. -/
def withValue (node : Node) (value : Option Value) (mark : Mark) : Node :=
  { node with value, mark }

/-- The node with a new marker. -/
def withMark (node : Node) (mark : Mark) : Node :=
  { node with mark }

end Node

end Stencil
