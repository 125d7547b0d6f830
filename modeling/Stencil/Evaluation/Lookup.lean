import Stencil.Environment
import Stencil.Evaluation.Error
import Stencil.TagTable

/-!
# Looking values up

The path of a node is followed in a document, and its matches are collapsed to
the last one or to the first few.  Where that leaves nothing, a constraint
supplies a value: a literal, the same path in another source, or the answer of
a handler.
-/

namespace Stencil.Node

/--
The node with the matches of its path in a document.  Nothing matches in a
missing or null document, and a scalar document is its own only match, for
which no path is followed.
-/
def follow (environment : Environment) (document : Option Value) (mark : Mark) (node : Node) :
    Except EvaluationError Node :=
  match document with
  | none | some .null => .ok (node.withValue (some (.array [])) mark)
  | some content =>
    if content.isContainer then
      match environment.select content (Path.qualified node.path) with
      | .ok found => .ok (node.withValue (some (.array found)) mark)
      | .error error => .error (.path error)
    else .ok (node.withValue (some (.array [content])) Mark.literal)

/-- The node with the matches of its path in a named source, or else in the origin. -/
def dereference
    (environment : Environment)
    (source : Option String)
    (mark : Mark)
    (node : Node) :
    Except EvaluationError Node :=
  let name := source.getD environment.settings.originSource
  node.follow environment (environment.sources.get? name) mark

/-- What collapsing leaves of a value: the last item, or the first ones that are taken. -/
def collapsed (take : Option Take) : Option Value → Option Value
  | some (.array items) =>
    match take with
    | none => items.getLast?
    | some first => some (.array (items.take (first.count.getD items.length)))
  | value => value

/-- The node with its matches collapsed. -/
def collapse (mark : Mark) (node : Node) : Node :=
  node.withValue (collapsed node.operators.query node.value) mark

/-- The document that a constraint finds under a name: the recorded tags or a source. -/
def sourceNamed (environment : Environment) (table : TagTable) (name : String) : Option Value :=
  if name = environment.settings.tagSource then some table.document
  else environment.sources.get? name

/-- The value of the path of a node in another source. -/
def lookup (environment : Environment) (table : TagTable) (source : String) (node : Node) :
    Except EvaluationError (Option Value) :=
  (node.follow environment (sourceNamed environment table source) Mark.constraint).map
    fun found => (found.collapse Mark.constraint).value

/-- The value that a constraint leaves a node with. -/
def supplied (environment : Environment) (table : TagTable) (node : Node) :
    Constraint → Except EvaluationError (Option Value)
  | .fallback source literal =>
    match node.value, literal with
    | some value, _ => .ok (some value)
    | none, some written => .ok (some (environment.argument written))
    | none, none =>
      node.lookup environment table (source.getD environment.settings.fallbackSource)
  | .alternate source literal =>
    if source = "" then .ok (some .null)
    else
      (node.lookup environment table source).map fun found =>
        some (found.getD ((literal.map environment.argument).getD .null))
  | .handler name argument =>
    match name.bind environment.handlers.get? with
    | some handler =>
      .ok (some (handler node.value (argument.toList.map environment.argument)))
    | none => .ok (some .null)

/-- The node with the value that its constraint supplies, if it declares one. -/
def constrain (environment : Environment) (table : TagTable) (mark : Mark) (node : Node) :
    Except EvaluationError Node :=
  match node.operators.constraint with
  | none => .ok node
  | some constraint =>
    (node.supplied environment table constraint).map fun value => node.withValue value mark

end Stencil.Node
