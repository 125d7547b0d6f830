import Stencil.Evaluation

/-!
# Composing templates

An inception composes the templates below a node.  How one template is rendered
is left to the caller; the composition decides which documents the templates
are rendered on, and how many levels of inception are left for them.  It renders
in a fixed order and stops at the first failure.
-/

namespace Stencil

/-- A way to render templates on documents, within the levels of inception that are left. -/
abbrev Renderer (Template : Type) (Effect : Type → Type) :=
  Template → Value → Depth → ExceptT EvaluationError Effect Value

namespace Node

/-- The node with its declared inception prepared. -/
def prepare (node : Node) : Node :=
  match node.operators.inception with
  | none => node
  | some inception => { node with mode := some inception.mode, depth := some inception.depth }

end Node

namespace Composition

variable {Template : Type} {Effect : Type → Type} [Monad Effect]

/-- Render each template on what the one before it gave. -/
def lens (render : Template → Value → ExceptT EvaluationError Effect Value) (base : Value) :
    List Template → ExceptT EvaluationError Effect Value
  | [] => pure base
  | template :: rest => do
    let document ← render template base
    lens render document rest

/-- Render every template on one document. -/
def renderAll (render : Template → Value → ExceptT EvaluationError Effect Value)
    (document : Value) : List Template → ExceptT EvaluationError Effect (List Value)
  | [] => pure []
  | template :: rest => do
    let first ← render template document
    let others ← renderAll render document rest
    return first :: others

/-- Render the first template on the origin, and all templates on what it gave. -/
def lead (render : Template → Value → ExceptT EvaluationError Effect Value) (origin : Value) :
    List Template → ExceptT EvaluationError Effect Value
  | [] => pure (.array [])
  | leader :: rest => do
    let scope ← render leader origin
    let items ← renderAll render scope (leader :: rest)
    return .array items

/-- Render templates on documents in pairs, up to the end of the shorter sequence. -/
def renderPairs (render : Template → Value → ExceptT EvaluationError Effect Value) :
    List (Template × Value) → ExceptT EvaluationError Effect (List Value)
  | [] => pure []
  | (template, document) :: rest => do
    let first ← render template document
    let others ← renderPairs render rest
    return first :: others

/-- The templates that are rendered on documents: a single one on each of them. -/
def pairs (templates : List Template) (documents : List Value) : List (Template × Value) :=
  match templates with
  | [template] => documents.map fun document => (template, document)
  | several => several.zip documents

/-- Render the first template on the origin, and the others on the items it gave. -/
def zip (render : Template → Value → ExceptT EvaluationError Effect Value) (origin : Value) :
    List Template → ExceptT EvaluationError Effect Value
  | [] => pure (.array [])
  | leader :: rest => do
    let scope ← render leader origin
    match scope with
    | .array documents => do
      let items ← renderPairs render (pairs rest documents)
      return .array items
    | other => throw (.notSequence .zip other)

/-- The value that templates make of a node. -/
def compose
    (mode : InceptionMode)
    (render : Template → Value → ExceptT EvaluationError Effect Value)
    (environment : Environment)
    (node : Node)
    (templates : List Template) :
    ExceptT EvaluationError Effect Value :=
  match mode with
  | .lens => lens render (node.value.getD .null) templates
  | .lead => lead render environment.origin templates
  | .zip => zip render environment.origin templates

end Composition

/--
The node with its templates composed.  A node whose inception is not prepared
yet is prepared first, and one without an inception stays as it is.  At depth
zero no level is left to compose.
-/
def Node.composeTemplates
    {Template : Type}
    {Effect : Type → Type}
    [Monad Effect]
    (render : Renderer Template Effect)
    (environment : Environment)
    (mark : Mark)
    (node : Node)
    (templates : List Template) :
    ExceptT EvaluationError Effect Node :=
  let prepared := if node.mode.isNone then node.prepare else node
  match prepared.mode with
  | none => pure prepared
  | some mode =>
    match (prepared.depth.getD .unbounded).below? with
    | none => throw (.depthExceeded mode)
    | some inner => do
      let value ←
        Composition.compose mode (fun template document => render template document inner)
          environment prepared templates
      return prepared.withValue (some value) mark

end Stencil
