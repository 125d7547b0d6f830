import Stencil.Evaluation.Lookup
import Stencil.Evaluation.Pipeline

/-!
# Evaluating a node

The path of a node is followed and its matches are collapsed.  Then what the
node declares is applied in a fixed order: its constraint supplies a missing
value, its symbol records the value, its enumeration expands it and its pipes
run on it.  Recording is the only effect, and the table keeps what was recorded
when a later stage fails.
-/

namespace Stencil

/-- A computation that may record tags and may fail. -/
abbrev Pass := ExceptT EvaluationError (StateM TagTable)

namespace Node

/-- The canonical path under which the value of a node is recorded. -/
def tagPath (context : Location) : SymbolOperator → Except EvaluationError String
  | .reserved => .error (.unimplemented .symbol SymbolOperator.reserved.display)
  | .tag path =>
    let written := (path.map Path.qualified).getD context.text
    match Path.canonical written with
    | .ok canonical => .ok canonical
    | .error error => .error (.path error)

/-- The table with the value of a node recorded, unless it is undefined. -/
def recordIn (table : TagTable) (path : String) (node : Node) :
    Except EvaluationError TagTable :=
  match node.value with
  | none => .ok table
  | some value =>
    match table.insert path value with
    | .ok (_, next) => .ok next
    | .error error => .error (.path error)

/-- Record the value of a node under the tag that it declares, if any. -/
def record (context : Location) (mark : Mark) (node : Node) : Pass Node :=
  match node.operators.symbol with
  | none => pure node
  | some symbol => do
    let path ← liftExcept (tagPath context symbol)
    let next ← liftExcept (node.recordIn (← get) path)
    set next
    return { node.withMark mark with tag := some path }

/-- The node with its value expanded, if it declares so; an undefined value is expanded as null. -/
def enumerate (mark : Mark) (node : Node) : Node :=
  match node.operators.enumerate with
  | none => node
  | some .elements => node.withValue (some (.array (node.value.getD .null).elements)) mark
  | some .entries => node.withValue (some (.array (node.value.getD .null).entries)) mark

/-- Evaluate a node at its place among the templates. -/
def evaluate (environment : Environment) (context : Location) (node : Node) : Pass Node := do
  let dereferenced ← liftExcept (node.dereference environment none Mark.dereference)
  let collapsed := dereferenced.collapse Mark.query
  let constrained ←
    liftExcept (collapsed.constrain environment (← get) Mark.constraint)
  let recorded ← constrained.record context Mark.symbol
  let enumerated := recorded.enumerate Mark.enumerate
  liftExcept (enumerated.pipe environment Mark.pipe)

end Node

end Stencil
