import Stencil.Function.Error
import Stencil.Function.Total
import Stencil.Registry
import Stencil.Text.Case
import Stencil.Text.Decimal
import Stencil.Text.Pieces
import Stencil.Value.Order

/-!
# The standard functions

Every function takes its bound arguments first and the piped value last, so
`take:2` applied to a sequence keeps its first two items.  The number of
arguments is checked first and then the arguments from left to right.
-/

namespace Stencil.Standard

/-- The single argument of a function. -/
def one : List Value → Except FunctionError Value
  | [value] => .ok value
  | arguments => .error (.arity .one arguments.length)

/-- The two arguments of a function. -/
def two : List Value → Except FunctionError (Value × Value)
  | [first, second] => .ok (first, second)
  | arguments => .error (.arity .two arguments.length)

/-- The text of the argument at an index. -/
def textAt (index : Nat) (value : Value) : Except FunctionError String :=
  match value.asText? with
  | some content => .ok content
  | none => .error (.invalid index (.notText value))

/-- The items of the argument at an index. -/
def itemsAt (index : Nat) (value : Value) : Except FunctionError (List Value) :=
  match value.asItems? with
  | some items => .ok items
  | none => .error (.invalid index (.notArray value))

/-- The count of the argument at an index, a number or its text. -/
def countAt (index : Nat) (value : Value) : Except FunctionError Nat :=
  let count? :=
    match value with
    | .number quantity => quantity.toCount?
    | .text content => Numeral.count? (Text.trim content.toList)
    | _ => none
  match count? with
  | some count => .ok count
  | none => .error (.invalid index (.notCount value))

/-- A function of one text. -/
def mapText (image : String → String) (arguments : List Value) :
    Except FunctionError Value := do
  let value ← one arguments
  let content ← textAt 0 value
  return .text (image content)

/-- An integer kept within the signed sixty-four bits. -/
def clamp (value : Int) : Int :=
  max (-(Numeral.integerLimit : Int)) (min value (Numeral.integerLimit - 1))

/-- The integer of the argument at an index; texts are read in a radix. -/
def integerAt (index radix : Nat) : Value → Except FunctionError Value
  | .number (.whole integer) => .ok (.number (.whole integer))
  | .number (.double float) => .ok (.ofInt (clamp float.truncate))
  | .bool truth => .ok (.ofNat truth.toNat)
  | .text content =>
    match Numeral.integer? radix (Text.trim content.toList) with
    | some value => .ok (.ofInt value)
    | none => .error (.invalid index (.notInteger content))
  | value => .error (.invalid index (.notConvertibleToInteger value))

/-- `toInt` of a value, or of a radix and a value. -/
def toInt : PipeFunction
  | [value] => integerAt 0 10 value
  | [radix, value] =>
    match countAt 0 radix with
    | .error error => .error error
    | .ok count =>
      if 2 ≤ count ∧ count ≤ 36 then integerAt 1 count value
      else .error (.invalid 0 (.radixOutOfRange count))
  | arguments => .error (.arity .oneOrTwo arguments.length)

/-- The double that a value stands for. -/
def float? : Value → Option Binary64
  | .number quantity => some quantity.toBinary64
  | .text content => Decimal.read? (Text.trim content.toList)
  | .bool truth => some (Binary64.ofInt truth.toNat)
  | _ => none

/-- `toFloat` of a value. -/
def toFloat : PipeFunction := fun arguments => do
  let value ← one arguments
  match float? value with
  | some float => return .number (.double float)
  | none => .error (.invalid 0 (.notConvertibleToFloat value))

/-- `toString` of a value: a text stays, and anything else becomes its compact text. -/
def toText : PipeFunction := fun arguments => do
  let value ← one arguments
  return .text value.plainText

/-- `toBool` of a value. -/
def toBool : PipeFunction := fun arguments => do
  let value ← one arguments
  return .bool value.isTruthy

/-- `not` of a value. -/
def negation : PipeFunction := fun arguments => do
  let value ← one arguments
  return .bool !value.isTruthy

/-- `length` of a text in characters or of a container in children. -/
def length : PipeFunction := fun arguments => do
  let value ← one arguments
  match value with
  | .null => return .ofNat 0
  | .text content => return .ofNat content.toList.length
  | .array items => return .ofNat items.length
  | .object members => return .ofNat members.length
  | other => .error (.invalid 0 (.noLength other))

/-- `take` of a count and a sequence or text: its first items or characters. -/
def take : PipeFunction := fun arguments => do
  let (first, value) ← two arguments
  let count ← countAt 0 first
  match value with
  | .array items => return .array (items.take count)
  | .text content => return .text (String.ofList (content.toList.take count))
  | other => .error (.invalid 1 (.nothingToTake other))

/-- `split` of a separator and a text. -/
def split : PipeFunction := fun arguments => do
  let (first, second) ← two arguments
  let separator ← textAt 0 first
  let content ← textAt 1 second
  return .array
    ((Text.cut separator.toList content.toList).map fun piece => .text (String.ofList piece))

/-- `join` of a separator and a sequence. -/
def join : PipeFunction := fun arguments => do
  let (first, second) ← two arguments
  let separator ← textAt 0 first
  let items ← itemsAt 1 second
  return .text
    (String.ofList
      (Text.glue separator.toList (items.map fun item => item.plainText.toList)))

/-- `equals` of two values, by the order of documents. -/
def equals : PipeFunction := fun arguments => do
  let (left, right) ← two arguments
  return .bool (left.compare right == .eq)

/-- Add the items from an index on to a total. -/
def addItems (index : Nat) (total : Total) : List Value → Except FunctionError Total
  | [] => .ok total
  | .number quantity :: rest => addItems (index + 1) (total.add quantity) rest
  | _ :: _ => .error (.invalid 0 (.itemNotNumber index))

/-- `sum` of a sequence of numbers. -/
def sum : PipeFunction := fun arguments => do
  let value ← one arguments
  let items ← itemsAt 0 value
  let total ← addItems 0 (.exact 0) items
  match total.number? with
  | some quantity => return .number quantity
  | none => .error (.failed "sum is not finite")

/-- `keys` of a container: the names of an object or the indices of an array. -/
def keys : PipeFunction := fun arguments => do
  let value ← one arguments
  match value with
  | .object members => return .array (members.map fun member => .text member.1)
  | .array items => return .array ((List.range items.length).map Value.ofNat)
  | other => .error (.invalid 0 (.noKeys other))

/-- `values` of a container. -/
def values : PipeFunction := fun arguments => do
  let value ← one arguments
  match value with
  | .object members => return .array (members.map Prod.snd)
  | .array items => return .array items
  | other => .error (.invalid 0 (.noValues other))

/-- `reverse` of a sequence or text. -/
def reverse : PipeFunction := fun arguments => do
  let value ← one arguments
  match value with
  | .array items => return .array items.reverse
  | .text content => return .text (String.ofList content.toList.reverse)
  | other => .error (.invalid 0 (.notReversible other))

/-- The standard functions by name. -/
def registry : Registry PipeFunction :=
  .ofList [("toInt", toInt), ("toFloat", toFloat), ("toString", toText), ("toBool", toBool),
    ("not", negation), ("upper", mapText Text.upper), ("lower", mapText Text.lower),
    ("trim", mapText Text.trimmed), ("length", length), ("take", take), ("split", split),
    ("join", join), ("equals", equals), ("sum", sum), ("keys", keys), ("values", values),
    ("reverse", reverse)]

end Stencil.Standard
