import Stencil.Proofs.Evaluation.Settling
import Stencil.Proofs.TagTable.History

/-!
# Lookups as changes of the origin

A constraint that looks the path of its node up in another source settles the
node as if that source were the origin and the node had no constraint.  The
stages behind read neither the origin nor the constraint.  So the evaluation is
the one of the unconstrained node in the redirected environment: it gives the
same value, marker, tag and table, or the same error.
-/

namespace Stencil

/-- The environment with another source as its origin. -/
def Environment.withOrigin (environment : Environment) (source : String) :
    Environment :=
  { environment with
    settings := { environment.settings with originSource := source } }

/-- Whether the paths that are queries are followed in every container without an error. -/
def Environment.AnswersQueries (environment : Environment) : Prop :=
  ∀ content path,
    content.isContainer = true →
      (Query.read? path).isSome = true →
        ∃ found, environment.select content path = .ok found

/-- Paths that are followed as queries fail only when they are none. -/
theorem Environment.answersQueries_of_select
    {environment : Environment}
    (picks : environment.select = Path.select) :
    environment.AnswersQueries := by
  intro content path _ valid
  rcases Option.isSome_iff_exists.mp valid with ⟨query, read⟩
  rw [picks, Path.select, read]
  exact ⟨_, rfl⟩

/-! ## Pipelines and the origin -/

theorem PipeEntry.stage_withOrigin
    (environment : Environment) (source : String) (entry : PipeEntry) :
    entry.stage (environment.withOrigin source) = entry.stage environment :=
  rfl

theorem Pipeline.stages_withOrigin
    (environment : Environment) (source : String)
    (entries : List PipeEntry) :
    stages (environment.withOrigin source) entries =
      stages environment entries := by
  induction entries with
  | nil => rfl
  | cons entry entries ih =>
      rw [stages, stages, PipeEntry.stage_withOrigin, ih]

theorem Pipeline.ofMembers_withOrigin
    (environment : Environment) (source : String)
    (pipes : List (String × Value)) :
    ofMembers (environment.withOrigin source) pipes =
      ofMembers environment pipes := by
  simp only [ofMembers, stages_withOrigin]

namespace Node

/-! ## Nodes with another constraint -/

/-- The node with another constraint, or without any. -/
def declaring (node : Node) (constraint : Option Constraint) : Node :=
  { node with operators := { node.operators with constraint } }

/-- The node without its constraint. -/
def unconstrained (node : Node) : Node :=
  node.declaring none

/-- The outcome of an evaluation, with the constraint of its node replaced. -/
def redeclared
    (constraint : Option Constraint)
    (outcome : Except EvaluationError Node × TagTable) :
    Except EvaluationError Node × TagTable :=
  (outcome.1.map fun result => result.declaring constraint, outcome.2)

variable
  {environment : Environment} {context : Location} {table : TagTable}
  {node : Node} {source : String}

theorem run_record_declaring
    (constraint : Option Constraint) (mark : Mark) (node : Node) :
    ((node.declaring constraint).record context mark).run.run table =
      redeclared constraint ((node.record context mark).run.run table) := by
  have insertion (path : String) :
      (node.declaring constraint).recordIn table path =
        node.recordIn table path :=
    rfl
  have symbols :
      (node.declaring constraint).operators.symbol = node.operators.symbol :=
    rfl
  rw [run_record_eq, run_record_eq, symbols]
  cases node.operators.symbol with
  | none => rfl
  | some symbol =>
      dsimp only
      cases tagPath context symbol with
      | error error => rfl
      | ok path =>
          dsimp only
          rw [insertion]
          cases node.recordIn table path with
          | error error => rfl
          | ok next => rfl

theorem enumerate_declaring
    (constraint : Option Constraint) (mark : Mark) (node : Node) :
    (node.declaring constraint).enumerate mark =
      (node.enumerate mark).declaring constraint := by
  have expansions :
      (node.declaring constraint).operators.enumerate =
        node.operators.enumerate :=
    rfl
  rw [enumerate.eq_def, enumerate.eq_def, expansions]
  split
  · rfl
  · rfl
  · rfl

theorem pipe_declaring
    (environment : Environment) (source : String)
    (constraint : Option Constraint) (mark : Mark) (node : Node) :
    (node.declaring constraint).pipe environment mark =
      (node.pipe (environment.withOrigin source) mark).map
        fun result => result.declaring constraint := by
  have declared : (node.declaring constraint).pipes = node.pipes := rfl
  have held : (node.declaring constraint).value = node.value := rfl
  rw [pipe, pipe, declared, held]
  cases node.pipes with
  | none => rfl
  | some pipes =>
      dsimp only
      rw [Pipeline.ofMembers_withOrigin]
      cases Pipeline.ofMembers environment pipes with
      | error error => rfl
      | ok stages =>
          dsimp only
          cases Pipeline.run stages (node.value.getD .null) with
          | error error => rfl
          | ok value => rfl

/-- Where two nodes settle alike up to the constraint, their evaluations agree up to it. -/
theorem run_evaluate_of_settled_eq
    (settles :
      node.settled environment table =
        (node.unconstrained.settled (environment.withOrigin source)
          table).map
          fun settled => settled.declaring node.operators.constraint) :
    (node.evaluate environment context).run.run table =
      redeclared node.operators.constraint
        ((node.unconstrained.evaluate (environment.withOrigin source)
          context).run.run table) := by
  rw [run_evaluate_eq, run_evaluate_eq, settles]
  cases node.unconstrained.settled (environment.withOrigin source) table with
  | error error => rfl
  | ok settled =>
      dsimp only [Except.map]
      rw [run_record_declaring]
      rcases (settled.record context Mark.symbol).run.run table with
        ⟨outcome, behind⟩
      cases outcome with
      | error error => rfl
      | ok recorded =>
          dsimp only [redeclared, Except.map]
          rw [enumerate_declaring, pipe_declaring environment source]
          rfl

/-! ## Settling in another origin -/

/-- An unconstrained node settles on what its path finds. -/
theorem settled_unconstrained_eq :
    node.unconstrained.settled environment table =
      (node.found environment).map fun value =>
        node.unconstrained.withValue value Mark.query := by
  have found : node.unconstrained.found environment = node.found environment :=
    found_congr rfl rfl
  rw [settled_eq, found]
  cases node.found environment with
  | error error => rfl
  | ok value => rfl

/-- A lookup past the tags finds what would be found in the source as the origin. -/
theorem lookup_withValue_eq
    (past : source ≠ environment.settings.tagSource)
    (value : Option Value) (mark : Mark) :
    (node.withValue value mark).lookup environment table source =
      node.found (environment.withOrigin source) := by
  have named :
      sourceNamed environment table source =
        environment.sources.get? source := by
    rw [sourceNamed, if_neg past]
  rw [lookup_eq rfl rfl, named]
  rfl

/-- A path that is a query finds something, or nothing, in every origin. -/
theorem exists_found
    (answers : environment.AnswersQueries)
    (valid : (Query.read? (Path.qualified node.path)).isSome = true) :
    ∃ value, node.found environment = .ok value := by
  rw [found, foundIn, follow.eq_def]
  split
  · exact ⟨_, rfl⟩
  · exact ⟨_, rfl⟩
  · next content _ =>
      split
      · next container =>
          rcases answers _ _ container valid with ⟨found, selected⟩
          rw [selected]
          exact ⟨_, rfl⟩
      · exact ⟨_, rfl⟩

/--
A node whose constraint supplies what the path finds in another origin settles
like the unconstrained node there.
-/
theorem settled_eq_of_supplied
    {constraint : Constraint} {value : Option Value}
    (declared : node.operators.constraint = some constraint)
    (finds : node.found environment = .ok value)
    (supplies :
      (node.withValue value Mark.query).supplied environment table
          constraint =
        node.found (environment.withOrigin source)) :
    node.settled environment table =
      (node.unconstrained.settled (environment.withOrigin source) table).map
        fun settled => settled.declaring node.operators.constraint := by
  have kept :
      (node.withValue value Mark.query).operators.constraint =
        some constraint :=
    declared
  rw [settled_unconstrained_eq, settled_eq, finds]
  dsimp only [Except.bind]
  rw [constrain, kept]
  dsimp only
  rw [supplies]
  cases node.found (environment.withOrigin source) with
  | error error => rfl
  | ok value => rfl

/--
A constraint that looks a value up is a change of the origin and nothing else.
A fallback leaves a node whose path finds a value as it would be without the
constraint.  A fallback without a literal gives a node whose path finds nothing
what the unconstrained node gets with its source as the origin, and so does an
alternate source in which the path finds a value, whatever was found before.
-/
theorem evaluate_redirects
    (environment : Environment) (context : Location) (table : TagTable)
    (node : Node) :
    (∀ source literal value,
      node.operators.constraint = some (.fallback source literal) →
        node.unconstrained.found environment = .ok (some value) →
          (node.evaluate environment context).run.run table =
            redeclared node.operators.constraint
              ((node.unconstrained.evaluate environment context).run.run
                table)) ∧
    (∀ declared source,
      node.operators.constraint = some (.fallback declared none) →
        declared.getD environment.settings.fallbackSource = source →
          source ≠ environment.settings.tagSource →
            node.unconstrained.found environment = .ok none →
              (node.evaluate environment context).run.run table =
                redeclared node.operators.constraint
                  ((node.unconstrained.evaluate
                    (environment.withOrigin source) context).run.run
                      table)) ∧
    (∀ source literal value,
      node.operators.constraint = some (.alternate source literal) →
        source ≠ "" →
          source ≠ environment.settings.tagSource →
            environment.AnswersQueries →
              (Query.read? (Path.qualified node.path)).isSome = true →
                node.unconstrained.found (environment.withOrigin source) =
                    .ok (some value) →
                  (node.evaluate environment context).run.run table =
                    redeclared node.operators.constraint
                      ((node.unconstrained.evaluate
                        (environment.withOrigin source) context).run.run
                          table)) := by
  have unconstrained (other : Environment) :
      node.unconstrained.found other = node.found other :=
    found_congr rfl rfl
  refine ⟨?defined, ?undefined, ?alternate⟩
  case defined =>
    intro source literal value declared defined
    rw [unconstrained] at defined
    -- The origin is kept: the environment is redirected to where it points already.
    have settles :
        node.settled environment table =
          (node.unconstrained.settled
            (environment.withOrigin environment.settings.originSource)
            table).map
            fun settled => settled.declaring node.operators.constraint :=
      settled_eq_of_supplied declared defined defined.symm
    exact run_evaluate_of_settled_eq settles
  case undefined =>
    rintro fallback source declared rfl past undefined
    rw [unconstrained] at undefined
    apply run_evaluate_of_settled_eq
    exact settled_eq_of_supplied declared undefined
      (lookup_withValue_eq past none Mark.query)
  case alternate =>
    intro source literal value declared named past answers valid defined
    rw [unconstrained] at defined
    rcases exists_found answers valid with ⟨first, found⟩
    apply run_evaluate_of_settled_eq
    apply settled_eq_of_supplied declared found
    rw [supplied, if_neg named, lookup_withValue_eq past, defined]
    rfl

/-- What the other source has at the path is recorded, though the origin is a scalar. -/
theorem evaluate_redirects_past_scalar :
    (Node.evaluate
          { sources :=
              .ofList
                [("origin", .bool true),
                  ("other", .object [("a", .bool false)])] } []
          { path := "a",
            operators :=
              { constraint := some (.alternate "other" none),
                symbol := some (.tag (some "x")) } }).run.run {} =
      (.ok
          { path := "a",
            operators :=
              { constraint := some (.alternate "other" none),
                symbol := some (.tag (some "x")) },
            value := some (.bool false),
            mark := Mark.symbol,
            tag := some "$.x" },
        TagTable.recordAt {} [.member "x"] (.bool false)) := by
  have redirected :=
    (evaluate_redirects
      { sources :=
          .ofList
            [("origin", .bool true),
              ("other", .object [("a", .bool false)])] }
      [] {}
      { path := "a",
        operators :=
          { constraint := some (.alternate "other" none),
            symbol := some (.tag (some "x")) } }).2.2
      "other" none (.bool false) rfl (by decide) (by decide)
      (Environment.answersQueries_of_select rfl) rfl rfl
  rw [redirected]
  rfl

end Node

end Stencil
