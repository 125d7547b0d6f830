import Stencil.Function.Error
import Stencil.Node.Basic
import Stencil.Path.Address

/-!
# Failures of evaluation

Only structural faults end the evaluation of a node.  A missing source, an
unknown handler or an absent default gives null or leaves the value undefined.
-/

namespace Stencil

/-- What is wrong with the expression of a pipe. -/
inductive ExpressionFault where
  | notText (found : Value)
  | missingName

namespace ExpressionFault

/-- The wording of a fault. -/
def message : ExpressionFault → String
  | .notText found => s!"expected a function expression, got {found.compact}"
  | .missingName => "missing function name"

end ExpressionFault

/-- Why the evaluation of a node ended. -/
inductive EvaluationError where
  | unimplemented (family : Family) (token : String)
  | unresolvedFunction (name : String)
  | multiplePlaceholders (name : String) (count : Nat)
  | invalidPipeOrdinal (key : String)
  | invalidPipeExpression (key : String) (fault : ExpressionFault)
  | notSequence (mode : InceptionMode) (found : Value)
  | depthExceeded (mode : InceptionMode)
  | path (error : PathError)
  | function (name : String) (error : FunctionError)

namespace EvaluationError

/-- The kind of an error, for diagnostics. -/
def kind : EvaluationError → String
  | .unimplemented .. => "unimplemented"
  | .unresolvedFunction _ => "unresolved_function"
  | .multiplePlaceholders .. => "multiple_placeholders"
  | .invalidPipeOrdinal _ => "invalid_pipe_ordinal"
  | .invalidPipeExpression .. => "invalid_pipe_expression"
  | .notSequence .. => "type_mismatch"
  | .depthExceeded _ => "depth_exceeded"
  | .path _ => "path"
  | .function .. => "function"

/-- The wording of an error; a malformed path is worded by whoever reads it. -/
def message? : EvaluationError → Option String
  | .unimplemented family token => some s!"Not implemented yet: [{family.name}({token})]"
  | .unresolvedFunction name => some s!"could not resolve function name [{name}]"
  | .multiplePlaceholders name count =>
    some s!"function [{name}] declares {count} placeholders, at most one is supported"
  | .invalidPipeOrdinal key => some s!"Invalid pipe ordinal: '{key}'"
  | .invalidPipeExpression key fault =>
    some s!"Invalid pipe expression at {key}: {fault.message}"
  | .notSequence mode found =>
    some s!"Inception operator [{mode.display}] expected array, found {found.typeName}"
  | .depthExceeded mode => some s!"Inception operator [{mode.display}] exceeded its depth"
  | .path error => error.message?
  | .function name error => some s!"function [{name}] failed: {error.message}"

end EvaluationError

end Stencil
