import Stencil.Evaluation

/-!
# Running an evaluation

An evaluation threads the table of tags through its stages and stops at the
first error.  Only the symbol touches the table: the stages in front of it
settle the node, and those behind it work on the node it leaves.  The outcome
and the table behind are described together, so that what a failure leaves is
described too.
-/

namespace Stencil

section Outcomes

variable {Failure Result Next : Type}

theorem map_eq_ok_iff
    {outcome : Except Failure Result} {build : Result → Next} {next : Next} :
    outcome.map build = .ok next ↔
      ∃ result, outcome = .ok result ∧ build result = next := by
  cases outcome with
  | error error => simp [Except.map]
  | ok result => simp [Except.map]

theorem map_eq_error_iff
    {outcome : Except Failure Result} {build : Result → Next}
    {error : Failure} :
    outcome.map build = .error error ↔ outcome = .error error := by
  cases outcome with
  | error error => simp [Except.map]
  | ok result => simp [Except.map]

end Outcomes

namespace Pass

variable {State Result Next : Type}

theorem run_bind
    (first : ExceptT EvaluationError (StateM State) Result)
    (next : Result → ExceptT EvaluationError (StateM State) Next)
    (table : State) :
    (first >>= next).run.run table =
      match first.run.run table with
      | (.error error, behind) => (.error error, behind)
      | (.ok result, behind) => (next result).run.run behind := by
  rw [ExceptT.run_bind, StateT.run_bind]
  rcases first.run.run table with ⟨outcome, behind⟩
  cases outcome with
  | error error => rfl
  | ok result => rfl

theorem run_liftExcept
    (outcome : Except EvaluationError Result) (table : TagTable) :
    (liftExcept outcome : Pass Result).run.run table = (outcome, table) := by
  cases outcome with
  | error error => rfl
  | ok result => rfl

theorem run_get (next : TagTable → Pass Next) (table : TagTable) :
    ((get : Pass TagTable) >>= next).run.run table =
      (next table).run.run table :=
  rfl

end Pass

namespace Node

/-- The node as its symbol finds it: followed, collapsed and constrained. -/
def settled (environment : Environment) (table : TagTable) (node : Node) :
    Except EvaluationError Node :=
  match node.dereference environment none Mark.dereference with
  | .error error => .error error
  | .ok dereferenced =>
    (dereferenced.collapse Mark.query).constrain environment table
      Mark.constraint

/-- The table is written between settling the node and expanding it. -/
theorem run_evaluate_eq
    (environment : Environment) (context : Location) (node : Node)
    (table : TagTable) :
    (node.evaluate environment context).run.run table =
      match node.settled environment table with
      | .error error => (.error error, table)
      | .ok settled =>
        match (settled.record context Mark.symbol).run.run table with
        | (.error error, behind) => (.error error, behind)
        | (.ok recorded, behind) =>
          ((recorded.enumerate Mark.enumerate).pipe environment Mark.pipe,
            behind) := by
  rw [evaluate, settled, Pass.run_bind, Pass.run_liftExcept]
  cases node.dereference environment none Mark.dereference with
  | error error => rfl
  | ok dereferenced =>
      dsimp only
      rw [Pass.run_get, Pass.run_bind, Pass.run_liftExcept]
      cases (dereferenced.collapse Mark.query).constrain environment table
          Mark.constraint with
      | error error => rfl
      | ok constrained =>
          dsimp only
          rw [Pass.run_bind]
          rcases (constrained.record context Mark.symbol).run.run table with
            ⟨outcome, behind⟩
          cases outcome with
          | error error => rfl
          | ok recorded =>
              dsimp only
              rw [Pass.run_liftExcept]

/-- A result comes from a settled node, recorded with the table behind, expanded and piped. -/
theorem exists_recorded_of_evaluate
    {environment : Environment} {context : Location} {node result : Node}
    {table behind : TagTable}
    (evaluated :
      (node.evaluate environment context).run.run table =
        (.ok result, behind)) :
    ∃ settled recorded,
      node.settled environment table = .ok settled ∧
        (settled.record context Mark.symbol).run.run table =
          (.ok recorded, behind) ∧
        (recorded.enumerate Mark.enumerate).pipe environment Mark.pipe =
          .ok result := by
  rw [run_evaluate_eq] at evaluated
  split at evaluated
  · cases evaluated
  · next settled settles =>
      split at evaluated
      · cases evaluated
      · next recorded _ records =>
          rcases Prod.mk.inj evaluated with ⟨piped, rfl⟩
          exact ⟨settled, recorded, settles, records, piped⟩

/-- A symbol finds its path first, and then writes a value that is defined. -/
theorem run_record_eq
    (context : Location) (mark : Mark) (node : Node) (table : TagTable) :
    (node.record context mark).run.run table =
      match node.operators.symbol with
      | none => (.ok node, table)
      | some symbol =>
        match tagPath context symbol with
        | .error error => (.error error, table)
        | .ok path =>
          match node.recordIn table path with
          | .error error => (.error error, table)
          | .ok next =>
            (.ok { node.withMark mark with tag := some path }, next) := by
  rw [record]
  cases node.operators.symbol with
  | none => rfl
  | some symbol =>
      dsimp only
      rw [Pass.run_bind, Pass.run_liftExcept]
      cases tagPath context symbol with
      | error error => rfl
      | ok path =>
          dsimp only
          rw [Pass.run_get, Pass.run_bind, Pass.run_liftExcept]
          cases node.recordIn table path with
          | error error => rfl
          | ok next => rfl

end Node

end Stencil
