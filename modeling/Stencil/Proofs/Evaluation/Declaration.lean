import Stencil.Proofs.Evaluation.Settling

/-!
# Evaluations of one declaration

What a node holds of an earlier evaluation is never read: its value, marker,
tag, mode and depth.  Two nodes that declare the same go through the stages in
step, with the same value and marker behind every stage, and they fail
together.  A result keeps all of its node but the value and the marker, and the
tag where a symbol sets it.  Evaluating a result again gives that result again.
-/

namespace Stencil

namespace Node

/-! ## Nodes and outcomes in step -/

/-- Two nodes that declare the same. -/
structure DeclaresLike (node other : Node) : Prop where
  path_eq : other.path = node.path
  operators_eq : other.operators = node.operators
  pipes_eq : other.pipes = node.pipes

/-- Two nodes behind one stage: they declare the same, and the stage left the same in both. -/
structure InStep (node other : Node) : Prop extends DeclaresLike node other where
  value_eq : other.value = node.value
  mark_eq : other.mark = node.mark

/-- Two outcomes of one stage: the same error, or nodes in step. -/
inductive OutcomesInStep :
    Except EvaluationError Node → Except EvaluationError Node → Prop where
  | error (error : EvaluationError) :
      OutcomesInStep (.error error) (.error error)
  | ok {result echo : Node} (inStep : result.InStep echo) :
      OutcomesInStep (.ok result) (.ok echo)

/-- A new value with its marker brings nodes of one declaration in step. -/
theorem DeclaresLike.withValue
    {node other : Node}
    (like : node.DeclaresLike other)
    (value : Option Value) (mark : Mark) :
    (node.withValue value mark).InStep (other.withValue value mark) :=
  ⟨⟨like.path_eq, like.operators_eq, like.pipes_eq⟩, rfl, rfl⟩

/-- Nodes in step that hold the same tag, mode and depth are one node. -/
theorem InStep.eq_of_rest
    {node other : Node}
    (inStep : node.InStep other)
    (tag : other.tag = node.tag)
    (mode : other.mode = node.mode)
    (depth : other.depth = node.depth) :
    other = node := by
  rcases node
  rcases other
  rcases inStep with ⟨⟨rfl, rfl, rfl⟩, rfl, rfl⟩
  rcases tag with rfl
  rcases mode with rfl
  rcases depth with rfl
  rfl

variable
  {environment : Environment} {context : Location} {table : TagTable}
  {node other : Node}

/-! ## Stage by stage -/

/-- A constraint reads the path, the take and the value, and all three are the same. -/
theorem InStep.supplied_eq
    (inStep : node.InStep other)
    (constraint : Constraint) :
    other.supplied environment table constraint =
      node.supplied environment table constraint := by
  have take : other.operators.query = node.operators.query := by
    rw [inStep.operators_eq]
  have lookups (source : String) :
      other.lookup environment table source =
        node.lookup environment table source :=
    (lookup_eq inStep.path_eq take source).trans
      (lookup_eq rfl rfl source).symm
  cases constraint with
  | fallback source literal =>
      simp only [supplied, inStep.value_eq, lookups]
  | alternate source literal =>
      simp only [supplied, lookups]
  | handler name argument =>
      simp only [supplied, inStep.value_eq]

theorem InStep.constrain
    (inStep : node.InStep other)
    (mark : Mark) :
    OutcomesInStep (node.constrain environment table mark)
      (other.constrain environment table mark) := by
  rw [Node.constrain, Node.constrain, inStep.operators_eq]
  cases node.operators.constraint with
  | none => exact .ok inStep
  | some constraint =>
      dsimp only
      rw [inStep.supplied_eq]
      cases node.supplied environment table constraint with
      | error error => exact .error error
      | ok value => exact .ok (inStep.withValue value mark)

/-- Following the path replaces the value, so it brings nodes of one declaration in step. -/
theorem DeclaresLike.settled
    (like : node.DeclaresLike other) :
    OutcomesInStep (node.settled environment table)
      (other.settled environment table) := by
  have take : other.operators.query = node.operators.query := by
    rw [like.operators_eq]
  rw [settled_eq, settled_eq, found_congr like.path_eq take]
  cases node.found environment with
  | error error => exact .error error
  | ok value =>
      exact (like.withValue value Mark.query).constrain Mark.constraint

theorem InStep.record
    (inStep : node.InStep other)
    (context : Location) (mark : Mark) (table : TagTable) :
    OutcomesInStep ((node.record context mark).run.run table).1
        ((other.record context mark).run.run table).1 ∧
      ((other.record context mark).run.run table).2 =
        ((node.record context mark).run.run table).2 := by
  rw [run_record_eq, run_record_eq, inStep.operators_eq]
  cases node.operators.symbol with
  | none => exact ⟨.ok inStep, rfl⟩
  | some symbol =>
      dsimp only
      cases tagPath context symbol with
      | error error => exact ⟨.error error, rfl⟩
      | ok path =>
          dsimp only
          have written :
              other.recordIn table path = node.recordIn table path := by
            rw [recordIn, recordIn, inStep.value_eq]
          rw [written]
          cases node.recordIn table path with
          | error error => exact ⟨.error error, rfl⟩
          | ok next =>
              refine ⟨.ok ?_, rfl⟩
              exact
                ⟨⟨inStep.path_eq, inStep.operators_eq, inStep.pipes_eq⟩,
                  inStep.value_eq, rfl⟩

theorem InStep.enumerate
    (inStep : node.InStep other)
    (mark : Mark) :
    (node.enumerate mark).InStep (other.enumerate mark) := by
  rw [Node.enumerate.eq_def, Node.enumerate.eq_def, inStep.operators_eq,
    inStep.value_eq]
  split
  · exact inStep
  · exact inStep.withValue _ mark
  · exact inStep.withValue _ mark

theorem InStep.pipe
    (inStep : node.InStep other)
    (mark : Mark) :
    OutcomesInStep (node.pipe environment mark)
      (other.pipe environment mark) := by
  rw [Node.pipe, Node.pipe, inStep.pipes_eq, inStep.value_eq]
  cases node.pipes with
  | none => exact .ok inStep
  | some pipes =>
      dsimp only
      cases Pipeline.ofMembers environment pipes with
      | error error => exact .error error
      | ok stages =>
          dsimp only
          cases Pipeline.run stages (node.value.getD .null) with
          | error error => exact .error error
          | ok value => exact .ok (inStep.withValue (some value) mark)

/-- Nodes of one declaration are evaluated in step and leave the same table. -/
theorem DeclaresLike.evaluate
    (like : node.DeclaresLike other)
    (environment : Environment) (context : Location) (table : TagTable) :
    OutcomesInStep ((node.evaluate environment context).run.run table).1
        ((other.evaluate environment context).run.run table).1 ∧
      ((other.evaluate environment context).run.run table).2 =
        ((node.evaluate environment context).run.run table).2 := by
  have settles :
      OutcomesInStep (node.settled environment table)
        (other.settled environment table) :=
    like.settled
  rw [run_evaluate_eq, run_evaluate_eq]
  generalize node.settled environment table = first at settles ⊢
  generalize other.settled environment table = second at settles ⊢
  cases settles with
  | error error => exact ⟨.error error, rfl⟩
  | @ok settled settledEcho inStep =>
      have records := inStep.record context Mark.symbol table
      dsimp only
      generalize (settled.record context Mark.symbol).run.run table = run
        at records ⊢
      generalize (settledEcho.record context Mark.symbol).run.run table =
        echoRun at records ⊢
      rcases run with ⟨outcome, behind⟩
      rcases echoRun with ⟨echoOutcome, echoBehind⟩
      rcases records with ⟨outcomes, tables⟩
      cases outcomes with
      | error error => exact ⟨.error error, tables⟩
      | ok recorded =>
          exact ⟨(recorded.enumerate Mark.enumerate).pipe Mark.pipe, tables⟩

/-! ## What a result keeps -/

/-- What an evaluation keeps of a node, and what it puts in place of the tag. -/
structure Keeps (context : Location) (node result : Node) : Prop
    extends DeclaresLike node result where
  mode_eq : result.mode = node.mode
  depth_eq : result.depth = node.depth
  /-- Without a tag symbol the tag stays. -/
  tag_eq :
    (∀ written, node.operators.symbol ≠ some (.tag written)) →
      result.tag = node.tag
  /-- A tag symbol leaves the canonical path that it finds. -/
  tag_set :
    ∀ written,
      node.operators.symbol = some (.tag written) →
        ∃ path,
          tagPath context (.tag written) = .ok path ∧
            result.tag = some path

theorem tag_of_record
    {mark : Mark} {result : Node} {behind : TagTable}
    (recorded :
      (node.record context mark).run.run table = (.ok result, behind)) :
    (node.operators.symbol = none ∧ result.tag = node.tag) ∨
      ∃ written path,
        node.operators.symbol = some (.tag written) ∧
          tagPath context (.tag written) = .ok path ∧
            result.tag = some path := by
  rw [run_record_eq] at recorded
  cases declared : node.operators.symbol with
  | none =>
      rw [declared] at recorded
      rcases Prod.mk.inj recorded with ⟨same, _⟩
      rcases Except.ok.inj same with rfl
      exact Or.inl ⟨rfl, rfl⟩
  | some symbol =>
      rw [declared] at recorded
      dsimp only at recorded
      split at recorded
      · cases recorded
      · next path tagged =>
          split at recorded
          · cases recorded
          · rcases Prod.mk.inj recorded with ⟨same, _⟩
            rcases Except.ok.inj same with rfl
            cases symbol with
            | reserved => cases tagged
            | tag written => exact Or.inr ⟨written, path, rfl, tagged, rfl⟩

/-- The stages around the symbol leave the tag alone. -/
theorem tag_of_evaluate
    {result : Node} {behind : TagTable}
    (evaluated :
      (node.evaluate environment context).run.run table =
        (.ok result, behind)) :
    (node.operators.symbol = none ∧ result.tag = node.tag) ∨
      ∃ written path,
        node.operators.symbol = some (.tag written) ∧
          tagPath context (.tag written) = .ok path ∧
            result.tag = some path := by
  rcases exists_recorded_of_evaluate evaluated with
    ⟨_, recorded, settles, records, piped⟩
  have tags := tag_of_record records
  rcases exists_withValue_of_settled settles with ⟨_, _, rfl⟩
  rcases exists_withValue_of_pipe piped with ⟨_, _, rfl⟩
  rcases exists_withValue_enumerate Mark.enumerate recorded with
    ⟨_, _, expanded⟩
  rw [expanded]
  exact tags

theorem keeps_of_evaluate
    {result : Node} {behind : TagTable}
    (evaluated :
      (node.evaluate environment context).run.run table =
        (.ok result, behind)) :
    node.Keeps context result := by
  have tags := tag_of_evaluate evaluated
  rcases exists_tag_of_evaluate evaluated with ⟨_, _, tag, rfl⟩
  refine ⟨⟨rfl, rfl, rfl⟩, rfl, rfl, ?tag_eq, ?tag_set⟩
  case tag_eq =>
    intro untagged
    rcases tags with ⟨_, stays⟩ | ⟨written, _, declared, _⟩
    · exact stays
    · exact absurd declared (untagged written)
  case tag_set =>
    intro written declared
    rcases tags with ⟨undeclared, _⟩ | ⟨_, path, declaredOther, tagged, set⟩
    · exact nomatch declared.symm.trans undeclared
    · cases declared.symm.trans declaredOther
      exact ⟨path, tagged, set⟩

/-- A symbol finds the same path in a result as in the node, so it leaves the same tag. -/
theorem Keeps.tag_eq_of_keeps
    {result again : Node}
    (keeps : node.Keeps context result)
    (keepsAgain : result.Keeps context again) :
    again.tag = result.tag := by
  by_cases tagged : ∃ written, node.operators.symbol = some (.tag written)
  · rcases tagged with ⟨written, declared⟩
    rcases keeps.tag_set written declared with ⟨path, found, set⟩
    rw [← keeps.operators_eq] at declared
    rcases keepsAgain.tag_set written declared with
      ⟨pathAgain, foundAgain, setAgain⟩
    rcases Except.ok.inj (found.symm.trans foundAgain) with rfl
    exact setAgain.trans set.symm
  · apply keepsAgain.tag_eq
    rw [keeps.operators_eq]
    exact not_exists.mp tagged

/-- Evaluated again from the same table, a result is in step with itself and keeps its tag. -/
theorem run_evaluate_again
    {result : Node} {behind : TagTable}
    (evaluated :
      (node.evaluate environment context).run.run table =
        (.ok result, behind)) :
    (result.evaluate environment context).run.run table =
      (.ok result, behind) := by
  have keeps : node.Keeps context result := keeps_of_evaluate evaluated
  have steps := keeps.toDeclaresLike.evaluate environment context table
  rw [evaluated] at steps
  cases run : (result.evaluate environment context).run.run table with
  | mk outcome behindAgain =>
      rw [run] at steps
      rcases steps with ⟨outcomes, tables⟩
      dsimp only at tables
      cases outcomes with
      | @ok _ again inStep =>
          have keepsAgain : result.Keeps context again := keeps_of_evaluate run
          have tag : again.tag = result.tag := keeps.tag_eq_of_keeps keepsAgain
          have same : again = result :=
            inStep.eq_of_rest tag keepsAgain.mode_eq keepsAgain.depth_eq
          rw [same, tables]

/--
An evaluation depends on what its node declares alone.  Nodes of one declaration
fail with one error or are evaluated to one value and marker, and leave the same
table.  A result keeps everything else of its node, the tag too unless a symbol
sets it, and evaluated again from the same table it comes back with that table.
-/
theorem evaluate_by_declaration
    (environment : Environment) (context : Location) (table : TagTable)
    {node other : Node}
    (like : node.DeclaresLike other) :
    OutcomesInStep ((node.evaluate environment context).run.run table).1
        ((other.evaluate environment context).run.run table).1 ∧
      ((other.evaluate environment context).run.run table).2 =
        ((node.evaluate environment context).run.run table).2 ∧
      ∀ result behind,
        (node.evaluate environment context).run.run table =
            (.ok result, behind) →
          node.Keeps context result ∧
            (result.evaluate environment context).run.run table =
              (.ok result, behind) := by
  rcases like.evaluate environment context table with ⟨outcomes, tables⟩
  refine ⟨outcomes, tables, ?_⟩
  intro result behind evaluated
  exact ⟨keeps_of_evaluate evaluated, run_evaluate_again evaluated⟩

/-- An environment whose origin holds one name. -/
def naming : Environment where
  sources := .ofList [("origin", .object [("a", .bool true)])]

/-- A node with a symbol, and with what a preparation and other stages left in it. -/
def stale : Node where
  path := "a"
  operators := { symbol := some (.tag (some "x")) }
  value := some (.text "before")
  mark := Mark.pipe
  tag := some "$.before"
  mode := some .zip
  depth := some .unbounded

/-- What the origin has at the path takes the place of what the node held before. -/
theorem evaluate_by_declaration_stale :
    OutcomesInStep ((stale.evaluate naming []).run.run {}).1
        ((Node.evaluate naming [] { path := "a", operators := stale.operators }).run.run {}).1 ∧
      ∃ result behind,
        (stale.evaluate naming []).run.run {} = (.ok result, behind) ∧
          result.value = some (.bool true) ∧
          result.tag = some "$.x" ∧
          result.mode = some .zip ∧
          (result.evaluate naming []).run.run {} = (.ok result, behind) := by
  have like : stale.DeclaresLike { path := "a", operators := stale.operators } :=
    ⟨rfl, rfl, rfl⟩
  rcases evaluate_by_declaration naming [] {} like with ⟨inStep, _, keeps⟩
  have again := (keeps _ _ rfl).2
  exact ⟨inStep, _, _, rfl, rfl, rfl, rfl, again⟩

end Node

end Stencil
