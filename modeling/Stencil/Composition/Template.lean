import Stencil.Composition

/-!
# Trees of templates

A template is a node with templates below it.  It is rendered on a document by
evaluating its node with the document as origin; when the node declares an
inception, its templates are then composed, within its own depth and the levels
that are left to it.  All renders of a tree record into one table.
-/

namespace Stencil

/-- A node and the templates that its inception composes. -/
inductive Template where
  | branch (node : Node) (children : List Template)

/-- A template that is rendered on a document, within the levels of inception left to it. -/
abbrev Rendering := Value → Depth → Pass Value

namespace Template

/-- The node of a template. -/
def node : Template → Node
  | .branch node _ => node

/-- The templates below a template. -/
def children : Template → List Template
  | .branch _ children => children

/-- An environment in which a document is the origin. -/
def environmentOf
    (functions : Registry PipeFunction)
    (handlers : Registry Handler)
    (document : Value) :
    Environment where
  sources := Registry.ofList [(({} : Settings).originSource, document)]
  functions := functions
  handlers := handlers

/-- Evaluate a node on a document and compose the renderings below it. -/
def renderNode
    (functions : Registry PipeFunction)
    (handlers : Registry Handler)
    (node : Node)
    (renderings : List Rendering) :
    Rendering := fun document budget => do
  let environment := environmentOf functions handlers document
  let evaluated : Node ← node.evaluate environment []
  match evaluated.operators.inception with
  | none => return evaluated.value.getD .null
  | some _ =>
    let prepared := evaluated.prepare
    let depth := prepared.depth.map fun own => Depth.tighter own budget
    let capped := { prepared with depth }
    let composed ←
      capped.composeTemplates (fun rendering => rendering) environment Mark.inception renderings
    return composed.value.getD .null

mutual

/-- Render a template on a document. -/
def render (functions : Registry PipeFunction) (handlers : Registry Handler) :
    Template → Rendering
  | .branch node children =>
    renderNode functions handlers node (renderings functions handlers children)

/-- The renderings of templates. -/
def renderings (functions : Registry PipeFunction) (handlers : Registry Handler) :
    List Template → List Rendering
  | [] => []
  | template :: rest =>
    render functions handlers template :: renderings functions handlers rest

end

end Template

end Stencil
