import Stencil.Proofs.Evaluation.Faults
import Stencil.Proofs.Evaluation.Settling

/-!
# Evaluations that ignore the tags

The table of tags enters an evaluation at one place, where a constraint looks
the path of its node up in the tags.  A node whose constraint does not do that
settles in the same way whatever the table holds.  Its symbol may still fail on
one table and not on another, but only because an index lies out of reach.
Without a symbol the outcome is the same on every table and no table changes,
so such nodes can be evaluated in any order.
-/

namespace Stencil

namespace Node

/-- No constraint of the node looks its path up in the tags, whatever its path finds. -/
def IgnoresTags (settings : Settings) (node : Node) : Prop :=
  ∀ constraint ∈ node.operators.constraint, ∀ value,
    ¬constraint.Consults settings value settings.tagSource

/-- The evaluation ends where its tag is written: an index on the way lies out of reach. -/
structure OutOfReach
    (environment : Environment) (context : Location) (table : TagTable)
    (node : Node) (error : EvaluationError) : Prop where
  refused :
    ∃ symbol settled path,
      node.operators.symbol = some symbol ∧
        node.settled environment table = .ok settled ∧
        tagPath context symbol = .ok path ∧
        settled.recordIn table path = .error error
  outOfRange :
    ∃ key position length,
      error = .path (.indexOutOfRange key position length)

variable
  {environment : Environment} {context : Location}
  {node settled : Node} {symbol : SymbolOperator} {path : String}

/-! ## Settling -/

theorem lookup_eq_of_ne_tagSource
    {source : String}
    (past : source ≠ environment.settings.tagSource)
    (left right : TagTable) :
    node.lookup environment left source =
      node.lookup environment right source := by
  rw [lookup, lookup, sourceNamed, sourceNamed, if_neg past, if_neg past]

/-- A constraint that does not consult the tags supplies the same value on all tables. -/
theorem supplied_eq_of_not_consults
    {constraint : Constraint}
    (past :
      ¬constraint.Consults environment.settings node.value
        environment.settings.tagSource)
    (left right : TagTable) :
    node.supplied environment left constraint =
      node.supplied environment right constraint := by
  cases constraint with
  | fallback source literal =>
      cases held : node.value with
      | some value => simp only [supplied, held]
      | none =>
          cases literal with
          | some written => simp only [supplied, held]
          | none =>
              rw [held] at past
              have elsewhere :
                  source.getD environment.settings.fallbackSource ≠
                    environment.settings.tagSource := by
                intro same
                apply past
                rw [← same]
                exact .fallback source
              simp only [supplied, held]
              exact lookup_eq_of_ne_tagSource elsewhere left right
  | alternate source literal =>
      rw [supplied, supplied]
      by_cases named : source = ""
      · rw [if_pos named, if_pos named]
      · have elsewhere : source ≠ environment.settings.tagSource := by
          rintro rfl
          exact past (.alternate named node.value literal)
        rw [if_neg named, if_neg named,
          lookup_eq_of_ne_tagSource elsewhere left right]
  | handler name argument => rfl

theorem settled_eq_of_ignoresTags
    (ignores : node.IgnoresTags environment.settings)
    (left right : TagTable) :
    node.settled environment left = node.settled environment right := by
  rw [settled_eq, settled_eq]
  congr 1
  funext value
  have kept :
      (node.withValue value Mark.query).operators.constraint =
        node.operators.constraint :=
    rfl
  rw [constrain, constrain, kept]
  cases declared : node.operators.constraint with
  | none => rfl
  | some constraint =>
      dsimp only
      rw [supplied_eq_of_not_consults (ignores constraint declared value)
        left right]

/-! ## Behind the settled node -/

/-- Without a symbol the table is not touched, and the pipes run on the settled node. -/
theorem run_evaluate_of_no_symbol
    (plain : node.operators.symbol = none)
    (table : TagTable) :
    (node.evaluate environment context).run.run table =
      ((node.settled environment table).bind fun settled =>
          (settled.enumerate Mark.enumerate).pipe environment Mark.pipe,
        table) := by
  rw [run_evaluate_eq]
  cases settles : node.settled environment table with
  | error error => rfl
  | ok settled =>
      dsimp only
      rw [run_record_eq, operators_eq_of_settled settles, plain]
      rfl

/-- What follows the write of a tag depends on the table only in whether the write fails. -/
theorem outcome_evaluate_of_tagPath
    {table : TagTable}
    (settles : node.settled environment table = .ok settled)
    (declared : node.operators.symbol = some symbol)
    (tagged : tagPath context symbol = .ok path) :
    ((node.evaluate environment context).run.run table).1 =
      (settled.recordIn table path).bind fun _ =>
        (({ settled.withMark Mark.symbol with tag := some path } :
          Node).enumerate Mark.enumerate).pipe environment Mark.pipe := by
  rw [run_evaluate_eq, settles]
  dsimp only
  rw [run_record_eq, operators_eq_of_settled settles, declared]
  dsimp only
  rw [tagged]
  dsimp only
  cases settled.recordIn table path with
  | error error => rfl
  | ok next => rfl

theorem outcome_evaluate_of_tagPath_error
    {table : TagTable} {error : EvaluationError}
    (settles : node.settled environment table = .ok settled)
    (declared : node.operators.symbol = some symbol)
    (refused : tagPath context symbol = .error error) :
    ((node.evaluate environment context).run.run table).1 =
      .error error := by
  rw [run_evaluate_eq, settles]
  dsimp only
  rw [run_record_eq, operators_eq_of_settled settles, declared]
  dsimp only
  rw [refused]

theorem outcome_evaluate_of_settled_error
    {table : TagTable} {error : EvaluationError}
    (fails : node.settled environment table = .error error) :
    ((node.evaluate environment context).run.run table).1 =
      .error error := by
  rw [run_evaluate_eq, fails]

/-- The path of a tag is a location, so that its write fails only for an index out of reach. -/
theorem outOfReach_of_recordIn
    {table : TagTable} {error : EvaluationError}
    (settles : node.settled environment table = .ok settled)
    (declared : node.operators.symbol = some symbol)
    (tagged : tagPath context symbol = .ok path)
    (refused : settled.recordIn table path = .error error) :
    node.OutOfReach environment context table error where
  refused := ⟨symbol, settled, path, declared, settles, tagged, refused⟩
  outOfRange := by
    rcases (recordIn_eq_error_iff_of_tagPath tagged).mp refused with
      ⟨location, before, position, _, _, _, rfl⟩
    exact ⟨_, _, _, rfl⟩

/--
On two tables a node that ignores the tags has one outcome, unless the write of
its tag is refused on one of them.
-/
theorem outcome_eq_or_outOfReach
    (ignores : node.IgnoresTags environment.settings)
    (context : Location) (left right : TagTable) :
    ((node.evaluate environment context).run.run left).1 =
        ((node.evaluate environment context).run.run right).1 ∨
      (∃ error,
        ((node.evaluate environment context).run.run left).1 =
            .error error ∧
          node.OutOfReach environment context left error) ∨
      ∃ error,
        ((node.evaluate environment context).run.run right).1 =
            .error error ∧
          node.OutOfReach environment context right error := by
  have alike := settled_eq_of_ignoresTags ignores left right
  cases declared : node.operators.symbol with
  | none =>
      rw [run_evaluate_of_no_symbol declared,
        run_evaluate_of_no_symbol declared, alike]
      exact Or.inl rfl
  | some symbol =>
      cases onRight : node.settled environment right with
      | error error =>
          have onLeft := alike.trans onRight
          rw [outcome_evaluate_of_settled_error onLeft,
            outcome_evaluate_of_settled_error onRight]
          exact Or.inl rfl
      | ok settled =>
          have onLeft := alike.trans onRight
          cases tagged : tagPath context symbol with
          | error error =>
              rw [outcome_evaluate_of_tagPath_error onLeft declared tagged,
                outcome_evaluate_of_tagPath_error onRight declared tagged]
              exact Or.inl rfl
          | ok path =>
              rw [outcome_evaluate_of_tagPath onLeft declared tagged,
                outcome_evaluate_of_tagPath onRight declared tagged]
              cases leftWrite : settled.recordIn left path with
              | error error =>
                  exact Or.inr (Or.inl
                    ⟨error, rfl,
                      outOfReach_of_recordIn onLeft declared tagged
                        leftWrite⟩)
              | ok written =>
                  cases rightWrite : settled.recordIn right path with
                  | error error =>
                      exact Or.inr (Or.inr
                        ⟨error, rfl,
                          outOfReach_of_recordIn onRight declared tagged
                            rightWrite⟩)
                  | ok next => exact Or.inl rfl

end Node

/-! ## Whole passes -/

/-- The outcome of a visit. -/
def Visit.outcome (environment : Environment) (table : TagTable) (visit : Visit) :
    Except EvaluationError Node :=
  ((visit.node.evaluate environment visit.context).run.run table).1

/-- The outcomes of visits, made one after the other; a failure does not end the pass. -/
def Pass.outcomes (environment : Environment) (table : TagTable) :
    List Visit → List (Except EvaluationError Node)
  | [] => []
  | visit :: rest =>
    visit.outcome environment table ::
      outcomes environment (visit.after environment table) rest

/-- A visit that neither looks into the tags nor has a symbol. -/
structure Visit.IsDetached (settings : Settings) (visit : Visit) : Prop where
  ignoresTags : visit.node.IgnoresTags settings
  no_symbol : visit.node.operators.symbol = none

namespace Visit.IsDetached

variable {environment : Environment} {visit : Visit}

theorem after_eq
    (detached : visit.IsDetached environment.settings)
    (table : TagTable) :
    visit.after environment table = table := by
  rw [after, Node.run_evaluate_of_no_symbol detached.no_symbol]

theorem outcome_eq
    (detached : visit.IsDetached environment.settings)
    (left right : TagTable) :
    visit.outcome environment left = visit.outcome environment right := by
  rw [outcome, outcome, Node.run_evaluate_of_no_symbol detached.no_symbol,
    Node.run_evaluate_of_no_symbol detached.no_symbol,
    Node.settled_eq_of_ignoresTags detached.ignoresTags left right]

end Visit.IsDetached

namespace Pass

variable {environment : Environment} {visits : List Visit}

/-- Detached visits leave the table alone. -/
theorem after_eq_of_detached
    (detached : ∀ visit ∈ visits, visit.IsDetached environment.settings)
    (table : TagTable) :
    after environment table visits = table := by
  induction visits with
  | nil => rfl
  | cons visit rest ih =>
      rcases List.forall_mem_cons.mp detached with ⟨first, later⟩
      rw [after, first.after_eq, ih later]

/-- Each detached visit has the outcome that it has by itself, on whichever table. -/
theorem outcomes_eq_map_of_detached
    (detached : ∀ visit ∈ visits, visit.IsDetached environment.settings)
    (left right : TagTable) :
    outcomes environment left visits =
      visits.map fun visit => visit.outcome environment right := by
  induction visits with
  | nil => rfl
  | cons visit rest ih =>
      rcases List.forall_mem_cons.mp detached with ⟨first, later⟩
      rw [outcomes, first.after_eq, ih later, List.map_cons,
        first.outcome_eq left right]

theorem zip_outcomes_of_detached
    (detached : ∀ visit ∈ visits, visit.IsDetached environment.settings)
    (left right : TagTable) :
    visits.zip (outcomes environment left visits) =
      visits.map fun visit =>
        (visit, visit.outcome environment right) := by
  rw [outcomes_eq_map_of_detached detached left right,
    List.map_prod_left_eq_zip]

/--
Evaluations of nodes that do not look into the tags do not depend on the table.
Without a symbol two tables give one outcome and stay as they are.  With one,
two evaluations that succeed give the same node, and an evaluation that fails,
other than for a tag out of reach, fails alike on every other table, or there
for a tag out of reach.  A pass of such nodes without symbols gives each of them
the same outcome in every order.
-/
theorem outcomes_independent_of_tags (environment : Environment) :
    (∀ (context : Location) (node : Node),
      node.IgnoresTags environment.settings →
        ∀ left right : TagTable,
          (node.operators.symbol = none →
            ((node.evaluate environment context).run.run left).1 =
                ((node.evaluate environment context).run.run right).1 ∧
              ((node.evaluate environment context).run.run left).2 =
                left ∧
              ((node.evaluate environment context).run.run right).2 =
                right) ∧
          (∀ first second,
            ((node.evaluate environment context).run.run left).1 =
                .ok first →
              ((node.evaluate environment context).run.run right).1 =
                  .ok second →
                first = second) ∧
          (∀ error,
            ((node.evaluate environment context).run.run left).1 =
                .error error →
              ¬node.OutOfReach environment context left error →
                ((node.evaluate environment context).run.run right).1 =
                    .error error ∨
                  ∃ other,
                    ((node.evaluate environment context).run.run right).1 =
                        .error other ∧
                      node.OutOfReach environment context right other)) ∧
    (∀ visits : List Visit,
      (∀ visit ∈ visits, visit.IsDetached environment.settings) →
        ∀ order : List Visit, order.Perm visits →
          ∀ left right : TagTable,
            after environment left order = left ∧
              (order.zip (outcomes environment left order)).Perm
                (visits.zip (outcomes environment right visits))) := by
  constructor
  · intro context node ignores left right
    have agree := Node.outcome_eq_or_outOfReach ignores context left right
    refine ⟨?plain, ?succeed, ?fail⟩
    case plain =>
      intro plain
      rw [Node.run_evaluate_of_no_symbol plain,
        Node.run_evaluate_of_no_symbol plain,
        Node.settled_eq_of_ignoresTags ignores left right]
      exact ⟨rfl, rfl, rfl⟩
    case succeed =>
      intro first second onLeft onRight
      rw [onLeft, onRight] at agree
      rcases agree with same | ⟨_, ⟨⟩, _⟩ | ⟨_, ⟨⟩, _⟩
      exact Except.ok.inj same
    case fail =>
      intro error onLeft within
      rcases agree with same | ⟨other, failed, refused⟩ | refused
      · exact Or.inl (same.symm.trans onLeft)
      · rw [onLeft] at failed
        rcases Except.error.inj failed with rfl
        exact absurd refused within
      · exact Or.inr refused
  · intro visits detached order permuted left right
    have reordered :
        ∀ visit ∈ order, visit.IsDetached environment.settings :=
      fun visit member => detached visit (permuted.mem_iff.mp member)
    refine ⟨after_eq_of_detached reordered left, ?_⟩
    rw [zip_outcomes_of_detached reordered left right,
      zip_outcomes_of_detached detached right right]
    exact permuted.map _

/-- An environment with one source, which is neither the origin nor that of the tags. -/
def pricing : Environment where
  sources := Registry.ofList [("prices", .object [("net", .text "seven")])]

/-- A node that is looked up in the prices. -/
def priced (symbol : Option SymbolOperator) : Node where
  path := "net"
  operators := { constraint := some (.alternate "prices" none), symbol }

/-- A visit of such a node without a symbol. -/
def pricedAt (context : Location) : Visit :=
  ⟨context, priced none⟩

theorem priced_ignoresTags (symbol : Option SymbolOperator) :
    (priced symbol).IgnoresTags pricing.settings := by
  intro constraint declared value consults
  rcases Option.some.inj declared with rfl
  have named {source : String}
      (consults :
        (Constraint.alternate "prices" none).Consults pricing.settings value source) :
      source = "prices" := by
    cases consults
    rfl
  exact absurd (named consults) (by decide)

/--
A node that is looked up in the prices has its price on every table and comes out
alike on all of them, with a symbol or without.  Two of them without one come out
alike in both orders.
-/
theorem outcomes_independent_at_prices :
    (∀ left right : TagTable,
      (((priced none).evaluate pricing []).run.run left).1.map Node.value =
          .ok (some (.text "seven")) ∧
        (((priced none).evaluate pricing []).run.run left).1 =
          (((priced none).evaluate pricing []).run.run right).1 ∧
        (((priced none).evaluate pricing []).run.run left).2 = left ∧
        (((priced none).evaluate pricing []).run.run right).2 = right) ∧
    (∀ (left right : TagTable) (first second : Node),
      (((priced (some (.tag none))).evaluate pricing []).run.run left).1 =
          .ok first →
        (((priced (some (.tag none))).evaluate pricing []).run.run right).1 =
            .ok second →
          first = second) ∧
    ∀ left right : TagTable,
      after pricing left [pricedAt [.index 0], pricedAt []] = left ∧
        (List.zip [pricedAt [.index 0], pricedAt []]
            (outcomes pricing left [pricedAt [.index 0], pricedAt []])).Perm
          (List.zip [pricedAt [], pricedAt [.index 0]]
            (outcomes pricing right [pricedAt [], pricedAt [.index 0]])) := by
  rcases outcomes_independent_of_tags pricing with ⟨nodes, passes⟩
  refine ⟨fun left right => ?_, fun left right => ?_, fun left right => ?_⟩
  · exact
      ⟨rfl, (nodes [] (priced none) (priced_ignoresTags none) left right).1 rfl⟩
  · exact
      (nodes [] (priced (some (.tag none))) (priced_ignoresTags _) left right).2.1
  · refine passes _ (fun visit member => ?_) _ (List.Perm.swap _ _ []) left right
    rcases List.mem_pair.mp member with rfl | rfl
    · exact ⟨priced_ignoresTags none, rfl⟩
    · exact ⟨priced_ignoresTags none, rfl⟩

end Pass

end Stencil
