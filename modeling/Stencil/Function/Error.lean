import Stencil.Value.Text

/-!
# Failures of functions

A function refuses a wrong number of arguments, refuses one argument for a
stated fault, or fails for a reason of its own.
-/

namespace Stencil

/-- How many arguments a function takes. -/
inductive Arity where
  | one
  | two
  | oneOrTwo
deriving DecidableEq

namespace Arity

/-- An arity in messages. -/
def text : Arity → String
  | .one => "1"
  | .two => "2"
  | .oneOrTwo => "1..=2"

end Arity

/-- What is wrong with an argument. -/
inductive ArgumentFault where
  | notText (found : Value)
  | notArray (found : Value)
  | notCount (found : Value)
  | radixOutOfRange (radix : Nat)
  | notInteger (written : String)
  | notConvertibleToInteger (found : Value)
  | notConvertibleToFloat (found : Value)
  | noLength (found : Value)
  | noKeys (found : Value)
  | noValues (found : Value)
  | nothingToTake (found : Value)
  | notReversible (found : Value)
  | itemNotNumber (index : Nat)

namespace ArgumentFault

/-- A value that should have been a count, in messages. -/
def countText : Value → String
  | .number quantity => String.ofList quantity.text
  | .text content => s!"'{content}'"
  | value => value.typeName

/-- The wording of a fault. -/
def message : ArgumentFault → String
  | .notText found => "expected string, got " ++ found.typeName
  | .notArray found => "expected array, got " ++ found.typeName
  | .notCount found => "expected a count, got " ++ countText found
  | .radixOutOfRange radix => s!"radix {radix} out of range"
  | .notInteger written => s!"'{written}' is not an integer"
  | .notConvertibleToInteger found => s!"cannot convert {found.typeName} to integer"
  | .notConvertibleToFloat found => s!"cannot convert {found.compact} to float"
  | .noLength found => s!"{found.typeName} has no length"
  | .noKeys found => s!"{found.typeName} has no keys"
  | .noValues found => s!"{found.typeName} has no values"
  | .nothingToTake found => "cannot take from " ++ found.typeName
  | .notReversible found => "cannot reverse " ++ found.typeName
  | .itemNotNumber index => s!"item {index} is not a number"

end ArgumentFault

/-- Why a function gave no value. -/
inductive FunctionError where
  | arity (expected : Arity) (found : Nat)
  | invalid (index : Nat) (fault : ArgumentFault)
  | failed (reason : String)

namespace FunctionError

/-- The wording of an error. -/
def message : FunctionError → String
  | .arity expected found => s!"expected {expected.text} argument(s), got {found}"
  | .invalid index fault => s!"argument {index}: {fault.message}"
  | .failed reason => reason

end FunctionError

/-- A function of pipes: it takes the bound arguments and the piped value. -/
abbrev PipeFunction := List Value → Except FunctionError Value

/-- A handler of constraints: it takes the value, nothing while it is undefined, and arguments. -/
abbrev Handler := Option Value → List Value → Value

end Stencil
