import Stencil.Proofs.Evaluation.Stages

/-!
# How a node settles

Before its symbol is applied, a node settles on a value: its path is followed
in the origin, the matches are collapsed and the constraint may replace what
was found.  What is found in a document depends on the path and on how many
matches are taken, and on nothing else the node holds.  A constraint that looks
the path up finds in another document what would be found there as the origin.
-/

namespace Stencil

namespace Node

/-- What the path of a node finds in a document, with the matches collapsed. -/
def foundIn (environment : Environment) (document : Option Value) (node : Node) :
    Except EvaluationError (Option Value) :=
  (node.follow environment document Mark.dereference).map fun followed =>
    (followed.collapse Mark.query).value

/-- What the path of a node finds in the origin. -/
def found (environment : Environment) (node : Node) :
    Except EvaluationError (Option Value) :=
  node.foundIn environment
    (environment.sources.get? environment.settings.originSource)

variable
  {environment : Environment} {table : TagTable} {node other : Node}

/-- The value found depends on the path and the take, and not on the markers set. -/
theorem value_follow_eq
    (path : other.path = node.path)
    (take : other.operators.query = node.operators.query)
    (document : Option Value) (mark next : Mark) :
    (other.follow environment document mark).map
        (fun followed => (followed.collapse next).value) =
      node.foundIn environment document := by
  rw [foundIn, follow.eq_def, follow.eq_def, path]
  split
  · simp only [Except.map, collapse, withValue, take]
  · simp only [Except.map, collapse, withValue, take]
  · split
    · split
      · simp only [Except.map, collapse, withValue, take]
      · rfl
    · simp only [Except.map, collapse, withValue, take]

theorem foundIn_congr
    (path : other.path = node.path)
    (take : other.operators.query = node.operators.query)
    (document : Option Value) :
    other.foundIn environment document = node.foundIn environment document :=
  value_follow_eq path take document Mark.dereference Mark.query

theorem found_congr
    (path : other.path = node.path)
    (take : other.operators.query = node.operators.query) :
    other.found environment = node.found environment :=
  foundIn_congr path take _

/-- A lookup finds what the path of the node finds in the document consulted. -/
theorem lookup_eq
    (path : other.path = node.path)
    (take : other.operators.query = node.operators.query)
    (source : String) :
    other.lookup environment table source =
      node.foundIn environment (sourceNamed environment table source) :=
  value_follow_eq path take _ Mark.constraint Mark.constraint

/-- A node settles by its constraint on what its path finds in the origin. -/
theorem settled_eq :
    node.settled environment table =
      (node.found environment).bind fun value =>
        (node.withValue value Mark.query).constrain environment table
          Mark.constraint := by
  rw [settled, found, foundIn, dereference, Option.getD_none]
  cases outcome :
      node.follow environment
        (environment.sources.get? environment.settings.originSource)
        Mark.dereference with
  | error error => rfl
  | ok followed =>
      rcases exists_withValue_of_follow outcome with ⟨value, mark, rfl⟩
      rfl

end Node

end Stencil
