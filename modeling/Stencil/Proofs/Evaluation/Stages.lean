import Mathlib.Logic.Relation
import Stencil.Composition
import Stencil.Proofs.Evaluation.Running

/-!
# What a stage leaves of a node

A stage gives a copy of its node in which at most what evaluation finds has
changed: the value, the marker and the tag, and the mode and the depth of the
inception.  What the node declares stays as it was through every sequence of
stages, and a depth that changes is a declared one.
-/

namespace Stencil.Node

/-! ## Single stages -/

theorem exists_withValue_of_follow
    {environment : Environment} {document : Option Value} {mark : Mark}
    {node result : Node}
    (followed : node.follow environment document mark = .ok result) :
    ∃ value marked, result = node.withValue value marked := by
  rw [follow.eq_def] at followed
  split at followed
  · exact ⟨_, _, (Except.ok.inj followed).symm⟩
  · exact ⟨_, _, (Except.ok.inj followed).symm⟩
  · split at followed
    · split at followed
      · exact ⟨_, _, (Except.ok.inj followed).symm⟩
      · cases followed
    · exact ⟨_, _, (Except.ok.inj followed).symm⟩

theorem exists_withValue_of_dereference
    {environment : Environment} {source : Option String} {mark : Mark}
    {node result : Node}
    (dereferenced : node.dereference environment source mark = .ok result) :
    ∃ value marked, result = node.withValue value marked :=
  exists_withValue_of_follow dereferenced

theorem exists_withValue_of_constrain
    {environment : Environment} {table : TagTable} {mark : Mark}
    {node result : Node}
    (constrained : node.constrain environment table mark = .ok result) :
    ∃ value marked, result = node.withValue value marked := by
  rw [constrain] at constrained
  split at constrained
  · exact ⟨node.value, node.mark, (Except.ok.inj constrained).symm⟩
  · next constraint _ =>
      cases outcome : node.supplied environment table constraint with
      | error error =>
          rw [outcome] at constrained
          cases constrained
      | ok value =>
          rw [outcome] at constrained
          exact ⟨value, mark, (Except.ok.inj constrained).symm⟩

theorem exists_withValue_of_settled
    {environment : Environment} {table : TagTable} {node result : Node}
    (settles : node.settled environment table = .ok result) :
    ∃ value marked, result = node.withValue value marked := by
  rw [settled] at settles
  split at settles
  · cases settles
  · next dereferenced =>
      rcases exists_withValue_of_dereference dereferenced with ⟨_, _, rfl⟩
      rcases exists_withValue_of_constrain settles with
        ⟨value, marked, rfl⟩
      exact ⟨value, marked, rfl⟩

theorem exists_tag_of_record
    {context : Location} {mark : Mark} {node result : Node}
    {table behind : TagTable}
    (recorded :
      (node.record context mark).run.run table = (.ok result, behind)) :
    ∃ marked tag, result = { node.withMark marked with tag } := by
  rw [run_record_eq] at recorded
  split at recorded
  · rcases Prod.mk.inj recorded with ⟨same, _⟩
    exact ⟨node.mark, node.tag, (Except.ok.inj same).symm⟩
  · split at recorded
    · rcases Prod.mk.inj recorded with ⟨failed, _⟩
      cases failed
    · next path _ =>
        split at recorded
        · rcases Prod.mk.inj recorded with ⟨failed, _⟩
          cases failed
        · rcases Prod.mk.inj recorded with ⟨tagged, _⟩
          exact ⟨mark, some path, (Except.ok.inj tagged).symm⟩

theorem exists_withValue_enumerate (mark : Mark) (node : Node) :
    ∃ value marked, node.enumerate mark = node.withValue value marked := by
  rw [enumerate]
  split
  · exact ⟨node.value, node.mark, rfl⟩
  · exact ⟨_, _, rfl⟩
  · exact ⟨_, _, rfl⟩

theorem exists_withValue_of_pipe
    {environment : Environment} {mark : Mark} {node result : Node}
    (piped : node.pipe environment mark = .ok result) :
    ∃ value marked, result = node.withValue value marked := by
  rw [pipe] at piped
  split at piped
  · exact ⟨node.value, node.mark, (Except.ok.inj piped).symm⟩
  · split at piped
    · cases piped
    · next stages _ =>
        cases outcome : Pipeline.run stages (node.value.getD .null) with
        | error error =>
            rw [outcome] at piped
            cases piped
        | ok value =>
            rw [outcome] at piped
            exact ⟨some value, mark, (Except.ok.inj piped).symm⟩

theorem exists_tag_of_evaluate
    {environment : Environment} {context : Location} {node result : Node}
    {table behind : TagTable}
    (evaluated :
      (node.evaluate environment context).run.run table =
        (.ok result, behind)) :
    ∃ value marked tag,
      result = { node.withValue value marked with tag } := by
  rcases exists_recorded_of_evaluate evaluated with
    ⟨_, _, settles, records, piped⟩
  rcases exists_withValue_of_settled settles with ⟨_, _, rfl⟩
  rcases exists_tag_of_record records with ⟨_, tag, rfl⟩
  rcases exists_withValue_of_pipe piped with ⟨value, marked, rfl⟩
  rcases exists_withValue_enumerate Mark.enumerate _ with ⟨_, _, expanded⟩
  rw [expanded]
  exact ⟨value, marked, tag, rfl⟩

theorem exists_withValue_of_composeTemplates
    {Template State : Type} {render : Renderer Template (StateM State)}
    {environment : Environment} {mark : Mark} {node result : Node}
    {templates : List Template} {state behind : State}
    (composed :
      (node.composeTemplates render environment mark templates).run.run
        state = (.ok result, behind)) :
    ∃ value marked,
      result =
        (if node.mode.isNone then node.prepare else node).withValue
          value marked := by
  rw [composeTemplates] at composed
  split at composed
  · rcases Prod.mk.inj composed with ⟨passed, _⟩
    exact ⟨_, _, (Except.ok.inj passed).symm⟩
  · split at composed
    · rcases Prod.mk.inj composed with ⟨failed, _⟩
      cases failed
    · rw [Pass.run_bind] at composed
      split at composed
      · rcases Prod.mk.inj composed with ⟨failed, _⟩
        cases failed
      · next value _ _ =>
          rcases Prod.mk.inj composed with ⟨done, _⟩
          exact ⟨some value, mark, (Except.ok.inj done).symm⟩

/-! ## What stays -/

/-- What stages keep: all that a node declares, and its depth unless a declared one replaces it. -/
structure Retains (node result : Node) : Prop where
  path_eq : result.path = node.path
  operators_eq : result.operators = node.operators
  pipes_eq : result.pipes = node.pipes
  depth_eq :
    result.depth = node.depth ∨
      ∃ inception ∈ node.operators.inception,
        result.depth = some inception.depth

namespace Retains

theorem refl (node : Node) : node.Retains node :=
  ⟨rfl, rfl, rfl, .inl rfl⟩

theorem trans
    {node between result : Node}
    (first : node.Retains between)
    (second : between.Retains result) :
    node.Retains result where
  path_eq := second.path_eq.trans first.path_eq
  operators_eq := second.operators_eq.trans first.operators_eq
  pipes_eq := second.pipes_eq.trans first.pipes_eq
  depth_eq := by
    rcases second.depth_eq with same | ⟨inception, declared, prepared⟩
    · rw [same]
      exact first.depth_eq
    · rw [first.operators_eq] at declared
      exact Or.inr ⟨inception, declared, prepared⟩

theorem withValue (value : Option Value) (mark : Mark) (node : Node) :
    node.Retains (node.withValue value mark) :=
  ⟨rfl, rfl, rfl, .inl rfl⟩

theorem prepare (node : Node) : node.Retains node.prepare := by
  rw [Node.prepare]
  split
  · exact refl node
  · next inception declared =>
      exact ⟨rfl, rfl, rfl, .inr ⟨inception, declared, rfl⟩⟩

end Retains

/-! ## Sequences of stages -/

/-- One stage takes a node to another. -/
inductive Stage : Node → Node → Prop where
  | evaluate
      {environment : Environment} {context : Location} {node result : Node}
      {table behind : TagTable}
      (run :
        (node.evaluate environment context).run.run table =
          (.ok result, behind)) :
      Stage node result
  | follow
      {environment : Environment} {document : Option Value} {mark : Mark}
      {node result : Node}
      (run : node.follow environment document mark = .ok result) :
      Stage node result
  | dereference
      {environment : Environment} {source : Option String} {mark : Mark}
      {node result : Node}
      (run : node.dereference environment source mark = .ok result) :
      Stage node result
  | collapse (mark : Mark) (node : Node) :
      Stage node (node.collapse mark)
  | constrain
      {environment : Environment} {table : TagTable} {mark : Mark}
      {node result : Node}
      (run : node.constrain environment table mark = .ok result) :
      Stage node result
  | record
      {context : Location} {mark : Mark} {node result : Node}
      {table behind : TagTable}
      (run :
        (node.record context mark).run.run table = (.ok result, behind)) :
      Stage node result
  | enumerate (mark : Mark) (node : Node) :
      Stage node (node.enumerate mark)
  | pipe
      {environment : Environment} {mark : Mark} {node result : Node}
      (run : node.pipe environment mark = .ok result) :
      Stage node result
  | prepare (node : Node) :
      Stage node node.prepare
  | compose
      {Template State : Type} {render : Renderer Template (StateM State)}
      {environment : Environment} {mark : Mark} {node result : Node}
      {templates : List Template} {state behind : State}
      (run :
        (node.composeTemplates render environment mark templates).run.run
          state = (.ok result, behind)) :
      Stage node result

theorem Stage.retains
    {node result : Node}
    (stage : Stage node result) :
    node.Retains result := by
  cases stage with
  | evaluate run =>
      rcases exists_tag_of_evaluate run with ⟨_, _, _, rfl⟩
      exact ⟨rfl, rfl, rfl, .inl rfl⟩
  | follow run =>
      rcases exists_withValue_of_follow run with ⟨_, _, rfl⟩
      exact .withValue _ _ node
  | dereference run =>
      rcases exists_withValue_of_dereference run with ⟨_, _, rfl⟩
      exact .withValue _ _ node
  | collapse mark => exact .withValue _ _ node
  | constrain run =>
      rcases exists_withValue_of_constrain run with ⟨_, _, rfl⟩
      exact .withValue _ _ node
  | record run =>
      rcases exists_tag_of_record run with ⟨_, _, rfl⟩
      exact ⟨rfl, rfl, rfl, .inl rfl⟩
  | enumerate mark =>
      rcases exists_withValue_enumerate mark node with ⟨_, _, expanded⟩
      rw [expanded]
      exact .withValue _ _ node
  | pipe run =>
      rcases exists_withValue_of_pipe run with ⟨_, _, rfl⟩
      exact .withValue _ _ node
  | prepare => exact .prepare node
  | compose run =>
      rcases exists_withValue_of_composeTemplates run with ⟨_, _, rfl⟩
      refine .trans ?_ (.withValue _ _ _)
      split
      · exact .prepare node
      · exact .refl node

/-- What a stage keeps is kept by every sequence of stages. -/
theorem retains_of_stages
    {node result : Node}
    (stages : Relation.ReflTransGen Stage node result) :
    node.Retains result := by
  induction stages with
  | refl => exact .refl node
  | tail _ stage ih => exact ih.trans stage.retains

end Stencil.Node
