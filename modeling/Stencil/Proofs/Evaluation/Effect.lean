import Stencil.Proofs.Evaluation.Recording
import Stencil.Proofs.Evaluation.Stages

/-!
# What one evaluation writes

An evaluation writes the value on which its node settles, once, under the path
that its symbol finds.  When it does, the table behind is the one that this
single insertion gives, whatever the stages behind the symbol do; when it does
not, the table stays as it was.
-/

namespace Stencil

theorem TagTable.get?_of_insert
    {insertions : List TagTable.Insertion} {path : String} {value : Value}
    {previous : Option Value} {next : TagTable}
    (inserted :
      (ofInsertions insertions).insert path value = .ok (previous, next)) :
    next.get? path = some value := by
  rcases (insert_eq_ok_iff _ _ _ _ _).mp inserted with
    ⟨location, located, _, _, rfl⟩
  have recorded := (reflects_ofInsertions insertions).recordAt location value
  rw [recorded.get?_of_locate located, if_pos (by simp)]
  simp

namespace Node

/--
What makes an evaluation write: its node settles on a value that is defined,
and the tag that it declares has a path at which the value can be inserted.
-/
structure Writes
    (environment : Environment) (context : Location) (table : TagTable)
    (node settled : Node) (path : String) (value : Value)
    (next : TagTable) : Prop where
  settles : node.settled environment table = .ok settled
  defined : settled.value = some value
  tagged :
    ∃ written,
      node.operators.symbol = some (.tag written) ∧
        tagPath context (.tag written) = .ok path
  inserted : ∃ previous, table.insert path value = .ok (previous, next)

variable
  {environment : Environment} {context : Location} {table next : TagTable}
  {node settled : Node} {path : String} {value : Value}

theorem operators_eq_of_settled
    (settles : node.settled environment table = .ok settled) :
    settled.operators = node.operators := by
  rcases exists_withValue_of_settled settles with ⟨_, _, rfl⟩
  rfl

/-- The stages behind the symbol are left with the table that it wrote. -/
theorem Writes.run_evaluate_eq
    (writes :
      node.Writes environment context table settled path value next) :
    (node.evaluate environment context).run.run table =
      ((({ settled.withMark Mark.symbol with tag := some path } :
            Node).enumerate Mark.enumerate).pipe environment Mark.pipe,
        next) := by
  rcases writes.tagged with ⟨written, declared, tagged⟩
  rcases writes.inserted with ⟨previous, inserted⟩
  have symbol : settled.operators.symbol = some (.tag written) := by
    rw [operators_eq_of_settled writes.settles, declared]
  have recorded : settled.recordIn table path = .ok next := by
    rw [recordIn, writes.defined]
    dsimp only
    rw [inserted]
  rw [Node.run_evaluate_eq, writes.settles]
  dsimp only
  rw [run_record_eq, symbol]
  dsimp only
  rw [tagged]
  dsimp only
  rw [recorded]

theorem Writes.tag_eq
    {result : Node}
    (writes :
      node.Writes environment context table settled path value next)
    (evaluated :
      ((node.evaluate environment context).run.run table).1 = .ok result) :
    result.tag = some path := by
  rw [writes.run_evaluate_eq] at evaluated
  rcases exists_withValue_of_pipe evaluated with ⟨_, _, rfl⟩
  rcases exists_withValue_enumerate Mark.enumerate
      { settled.withMark Mark.symbol with tag := some path } with
    ⟨_, _, expanded⟩
  rw [expanded]
  rfl

theorem exists_tagged_of_insertion?
    {insertion : TagTable.Insertion}
    (asked : node.insertion? context = some insertion) :
    node.value = some insertion.value ∧
      ∃ written,
        node.operators.symbol = some (.tag written) ∧
          tagPath context (.tag written) = .ok insertion.path := by
  rw [insertion?] at asked
  split at asked
  · next symbol value declared held =>
      split at asked
      · next path tagged =>
          rcases Option.some.inj asked with rfl
          refine ⟨held, ?_⟩
          cases symbol with
          | reserved => cases tagged
          | tag written => exact ⟨written, declared, tagged⟩
      · cases asked
  · cases asked

/-- Without a write every stage, whether it fails or not, leaves the table as it was. -/
theorem run_evaluate_of_not_writes
    (idle :
      ∀ settled path value next,
        ¬node.Writes environment context table settled path value next) :
    ((node.evaluate environment context).run.run table).2 = table := by
  rw [run_evaluate]
  cases settles : node.settled environment table with
  | error error => rfl
  | ok settled =>
      dsimp only
      rw [run_record]
      cases asked : settled.insertion? context with
      | none => rfl
      | some insertion =>
          dsimp only
          rcases exists_tagged_of_insertion? asked with ⟨defined, tagged⟩
          rw [operators_eq_of_settled settles] at tagged
          cases inserted : table.insert insertion.path insertion.value with
          | error error => exact TagTable.attempt_of_error inserted
          | ok written =>
              rcases written with ⟨previous, next⟩
              exact absurd
                ⟨settles, defined, tagged, previous, inserted⟩
                (idle settled insertion.path insertion.value next)

/--
One evaluation changes a table by at most one insertion, that of the value on
which its node settles.  The table behind is then the one that the insertion
gives, also when a pipe fails, and it reads that value under the tag of the
result; otherwise the table is the same as before.
-/
theorem evaluate_writes_once
    (environment : Environment) (context : Location)
    (insertions : List TagTable.Insertion) (node : Node) :
    (∀ settled path value next,
      node.Writes environment context (.ofInsertions insertions)
          settled path value next →
        (node.evaluate environment context).run.run
            (.ofInsertions insertions) =
          ((({ settled.withMark Mark.symbol with tag := some path } :
                Node).enumerate Mark.enumerate).pipe environment Mark.pipe,
            next) ∧
        ∀ result,
          ((node.evaluate environment context).run.run
              (.ofInsertions insertions)).1 = .ok result →
            result.tag = some path ∧ next.get? path = some value) ∧
    ((∀ settled path value next,
        ¬node.Writes environment context (.ofInsertions insertions)
          settled path value next) →
      ((node.evaluate environment context).run.run
          (.ofInsertions insertions)).2 = .ofInsertions insertions) := by
  constructor
  · intro settled path value next writes
    refine ⟨writes.run_evaluate_eq, ?_⟩
    intro result evaluated
    rcases writes.inserted with ⟨previous, inserted⟩
    exact ⟨writes.tag_eq evaluated, TagTable.get?_of_insert inserted⟩
  · exact run_evaluate_of_not_writes

end Node

end Stencil
