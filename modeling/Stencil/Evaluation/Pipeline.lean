import Stencil.Environment
import Stencil.Evaluation.Error
import Stencil.Sorting

/-!
# Pipelines

The pipes of a node are members whose names are `$` and an ordinal; all others
are ignored.  Every pipe names a function and its arguments, of which one may
be the placeholder that stands for the piped value; without it the piped value
comes last.  All pipes are resolved, in the order of their ordinals, before the
first one runs.
-/

namespace Stencil

/-- One argument of a stage. -/
inductive Slot where
  | hole
  | bound (value : Value)

/-- A function with every argument bound but the piped value. -/
structure PipeStage where
  /-- The name of the function. -/
  name : String
  /-- The function. -/
  function : PipeFunction
  /-- Its arguments. -/
  slots : List Slot

namespace Slot

/-- The argument that stands for the piped value. -/
def placeholder : String := "__"

/-- The slot of a written argument. -/
def ofArgument (environment : Environment) (argument : String) : Slot :=
  if argument = placeholder then .hole else .bound (environment.argument argument)

/-- The slots of written arguments: without a placeholder the piped value comes last. -/
def ofArguments (environment : Environment) (arguments : List String) : List Slot :=
  let slots := arguments.map (ofArgument environment)
  if arguments.contains placeholder then slots else slots ++ [.hole]

/-- A slot with the piped value in place. -/
def fill (value : Value) : Slot → Value
  | .hole => value
  | .bound held => held

end Slot

namespace PipeStage

/-- The stage of a function name and its arguments. -/
def ofArguments (environment : Environment) (name : String) (arguments : List String) :
    Except EvaluationError PipeStage :=
  match environment.functions.get? name with
  | none => .error (.unresolvedFunction name)
  | some function =>
    let count := arguments.count Slot.placeholder
    if 1 < count then .error (.multiplePlaceholders name count)
    else .ok ⟨name, function, Slot.ofArguments environment arguments⟩

/-- The value of a stage on a piped value. -/
def call (stage : PipeStage) (value : Value) : Except EvaluationError Value :=
  match stage.function (stage.slots.map (Slot.fill value)) with
  | .ok result => .ok result
  | .error error => .error (.function stage.name error)

end PipeStage

/-- A declared pipe. -/
structure PipeEntry where
  /-- The name of the member. -/
  key : String
  /-- The ordinal behind the marker. -/
  ordinal : Nat
  /-- The function and its arguments, as they are written. -/
  expression : String

namespace PipeEntry

/-- The pipe that a member declares; nothing when it declares none. -/
def ofMember (key : String) (value : Value) : Except EvaluationError (Option PipeEntry) :=
  match key.toList with
  | '$' :: written =>
    match Numeral.count? written, value with
    | none, _ => .error (.invalidPipeOrdinal key)
    | some ordinal, .text expression => .ok (some ⟨key, ordinal, expression⟩)
    | some _, found => .error (.invalidPipeExpression key (.notText found))
  | _ => .ok none

/-- The pipes that members declare, in the order of the members. -/
def ofMembers : List (String × Value) → Except EvaluationError (List PipeEntry)
  | [] => .ok []
  | (key, value) :: rest =>
    match ofMember key value, ofMembers rest with
    | .error error, _ => .error error
    | .ok _, .error error => .error error
    | .ok entry, .ok entries => .ok (entry.toList ++ entries)

/-- The order of ordinals, which is the order of numbers in documents. -/
def order (left right : PipeEntry) : Ordering :=
  (Value.ofNat left.ordinal).compare (Value.ofNat right.ordinal)

/-- The stage of a pipe. -/
def stage (environment : Environment) (entry : PipeEntry) :
    Except EvaluationError PipeStage :=
  match (Text.arguments entry.expression.toList).map String.ofList with
  | [] | "" :: _ => .error (.invalidPipeExpression entry.key .missingName)
  | name :: arguments => PipeStage.ofArguments environment name arguments

end PipeEntry

namespace Pipeline

/-- The stages of entries, one after the other. -/
def stages (environment : Environment) :
    List PipeEntry → Except EvaluationError (List PipeStage)
  | [] => .ok []
  | entry :: rest =>
    match entry.stage environment with
    | .error error => .error error
    | .ok stage => (stages environment rest).map (stage :: ·)

/-- The stages that members declare, in the order in which they run. -/
def ofMembers (environment : Environment) (pipes : List (String × Value)) :
    Except EvaluationError (List PipeStage) :=
  match PipeEntry.ofMembers pipes with
  | .error error => .error error
  | .ok entries => stages environment (sorted PipeEntry.order entries)

/-- The value that stages make of a value, one after the other. -/
def run : List PipeStage → Value → Except EvaluationError Value
  | [], value => .ok value
  | stage :: rest, value =>
    match stage.call value with
    | .error error => .error error
    | .ok result => run rest result

end Pipeline

/-- The node with its value piped through its pipeline; an undefined value is piped as null. -/
def Node.pipe (environment : Environment) (mark : Mark) (node : Node) :
    Except EvaluationError Node :=
  match node.pipes with
  | none => .ok node
  | some pipes =>
    match Pipeline.ofMembers environment pipes with
    | .error error => .error error
    | .ok stages =>
      (Pipeline.run stages (node.value.getD .null)).map fun value =>
        node.withValue (some value) mark

end Stencil
