import Mathlib.Logic.Relation
import Stencil.Composition
import Stencil.Proofs.Evaluation.Running

/-!
# The renders of a composition

A composition follows a plan.  The values given so far tell which template is
rendered next and on which document, until no render is due any more or one
fails.  The plan of a mode knows the templates and the documents but not the
depth, so no depth that lets a composition start leaves a template out.

What a render does to the state is left open.  A state that keeps account of
the renders thus tells exactly which ones were made.
-/

namespace Stencil

namespace Composition

/-- What a composition does, by the values that its renders have given so far. -/
structure Plan (Template : Type) where
  /-- The template that is rendered next, and its document. -/
  due : List Value → Option (Template × Value)
  /-- What the composition gives once no render is due. -/
  outcome : List Value → Except EvaluationError Value

namespace Plan

variable {Template : Type}

/-- Each template is rendered on what the one before it gave, the first one on a base. -/
def lens (base : Value) (templates : List Template) : Plan Template where
  due given :=
    templates[given.length]?.map fun template =>
      (template, given.getLast?.getD base)
  outcome given := .ok (given.getLast?.getD base)

/--
The first template is rendered on the origin, and then every template, the
first one again, on what it gave.
-/
def lead (origin : Value) (templates : List Template) : Plan Template where
  due
    | [] => templates.head?.map fun leader => (leader, origin)
    | scope :: items =>
      templates[items.length]?.map fun template => (template, scope)
  outcome given := .ok (.array given.tail)

/--
The first template is rendered on the origin.  When it gives an array, a single
template behind it is rendered on every item, and each of several templates on
the item in its place.
-/
def zip (origin : Value) (templates : List Template) : Plan Template where
  due
    | [] => templates.head?.map fun leader => (leader, origin)
    | .array documents :: items =>
      match templates.tail with
      | [template] =>
        documents[items.length]?.map fun document => (template, document)
      | several => do
        let template ← several[items.length]?
        let document ← documents[items.length]?
        return (template, document)
    | _ :: _ => none
  outcome
    | [] => .ok (.array [])
    | .array _ :: items => .ok (.array items)
    | other :: _ => .error (.notSequence .zip other)

/-- The plan of a mode. -/
def ofMode
    (mode : InceptionMode) (origin base : Value) (templates : List Template) :
    Plan Template :=
  match mode with
  | .lens => lens base templates
  | .lead => lead origin templates
  | .zip => zip origin templates

theorem due_zip_array
    (origin : Value) (leader : Template) (rest : List Template)
    (documents items : List Value) :
    (zip origin (leader :: rest)).due (.array documents :: items) =
      (pairs rest documents)[items.length]? := by
  have paired (several : List Template) :
      (do
        let template ← several[items.length]?
        let document ← documents[items.length]?
        return (template, document)) =
      (several.zip documents)[items.length]? := by
    rw [List.zip_eq_zipWith, List.getElem?_zipWith]
    cases several[items.length]? with
    | none => rfl
    | some template =>
        cases documents[items.length]? with
        | none => rfl
        | some document => rfl
  match rest with
  | [] => exact paired []
  | [template] => exact (List.getElem?_map ..).symm
  | first :: second :: more => exact paired (first :: second :: more)

end Plan

/-! ## Following a plan -/

section Following

variable {Template State : Type}

/-- The render that is due gives a value, which is added to those given so far. -/
inductive Renders
    (render : Template → Value → ExceptT EvaluationError (StateM State) Value)
    (plan : Plan Template) :
    List Value × State → List Value × State → Prop where
  | gives
      {given : List Value} {state behind : State} {template : Template}
      {document value : Value}
      (isDue : plan.due given = some (template, document))
      (answer :
        (render template document).run.run state = (.ok value, behind)) :
      Renders render plan (given, state) (given ++ [value], behind)

/-- A composition ends when no render is due, or with the failure of the one that is. -/
inductive Ends
    (render : Template → Value → ExceptT EvaluationError (StateM State) Value)
    (plan : Plan Template) :
    List Value × State → Except EvaluationError Value × State → Prop where
  | finished
      {given : List Value} {state : State}
      (idle : plan.due given = none) :
      Ends render plan (given, state) (plan.outcome given, state)
  | failed
      {given : List Value} {state behind : State} {template : Template}
      {document : Value} {error : EvaluationError}
      (isDue : plan.due given = some (template, document))
      (answer :
        (render template document).run.run state = (.error error, behind)) :
      Ends render plan (given, state) (.error error, behind)

/-- From a state on, the renders of a plan are made one after the other up to its end. -/
def Follows
    (render : Template → Value → ExceptT EvaluationError (StateM State) Value)
    (plan : Plan Template)
    (reached : List Value × State)
    (result : Except EvaluationError Value × State) : Prop :=
  ∃ last,
    Relation.ReflTransGen (Renders render plan) reached last ∧
      Ends render plan last result

variable
  {render : Template → Value → ExceptT EvaluationError (StateM State) Value}
  {plan : Plan Template}

theorem renders_rightUnique : Relator.RightUnique (Renders render plan) := by
  intro reached next other first second
  cases first with
  | gives isDue answer =>
      cases second with
      | gives sameDue sameAnswer =>
          rw [isDue] at sameDue
          cases sameDue
          rw [answer] at sameAnswer
          cases sameAnswer
          rfl

theorem Ends.not_renders
    {last next : List Value × State}
    {result : Except EvaluationError Value × State}
    (ends : Ends render plan last result) :
    ¬Renders render plan last next := by
  intro renders
  cases renders with
  | gives isDue answer =>
      cases ends with
      | finished idle =>
          rw [isDue] at idle
          cases idle
      | failed sameDue sameAnswer =>
          rw [isDue] at sameDue
          cases sameDue
          rw [answer] at sameAnswer
          cases sameAnswer

theorem ends_unique
    {last : List Value × State}
    {result other : Except EvaluationError Value × State}
    (first : Ends render plan last result)
    (second : Ends render plan last other) :
    result = other := by
  cases first with
  | finished idle =>
      cases second with
      | finished _ => rfl
      | failed isDue _ =>
          rw [idle] at isDue
          cases isDue
  | failed isDue answer =>
      cases second with
      | finished idle =>
          rw [idle] at isDue
          cases isDue
      | failed sameDue sameAnswer =>
          rw [isDue] at sameDue
          cases sameDue
          rw [answer] at sameAnswer
          cases sameAnswer
          rfl

/-- A plan is followed in one way only. -/
theorem follows_unique
    {reached : List Value × State}
    {result other : Except EvaluationError Value × State}
    (first : Follows render plan reached result)
    (second : Follows render plan reached other) :
    result = other := by
  rcases first with ⟨last, path, ends⟩
  rcases second with ⟨final, otherPath, otherEnds⟩
  have same : last = final := by
    rcases Relation.ReflTransGen.total_of_right_unique renders_rightUnique
        path otherPath with onward | back
    · rcases onward.cases_head with same | ⟨_, step, _⟩
      · exact same
      · exact absurd step ends.not_renders
    · rcases back.cases_head with same | ⟨_, step, _⟩
      · exact same.symm
      · exact absurd step otherEnds.not_renders
  rw [← same] at otherEnds
  exact ends_unique ends otherEnds

theorem follows_of_none
    {given : List Value}
    (idle : plan.due given = none)
    (state : State) :
    Follows render plan (given, state) (plan.outcome given, state) :=
  ⟨_, .refl, .finished idle⟩

/-- The render that is due is made, and a value that it gives is followed further. -/
theorem follows_of_due
    {given : List Value} {state : State} {template : Template}
    {document : Value} {result : Except EvaluationError Value × State}
    (isDue : plan.due given = some (template, document))
    (onward :
      match (render template document).run.run state with
      | (.error error, behind) => result = (.error error, behind)
      | (.ok value, behind) =>
        Follows render plan (given ++ [value], behind) result) :
    Follows render plan (given, state) result := by
  rcases answer : (render template document).run.run state with
    ⟨outcome, behind⟩
  rw [answer] at onward
  cases outcome with
  | error error =>
      rw [onward]
      exact ⟨_, .refl, .failed isDue answer⟩
  | ok value =>
      rcases onward with ⟨last, path, ends⟩
      exact ⟨last, path.head (.gives isDue answer), ends⟩

end Following

/-! ## The modes follow their plans -/

section Modes

variable
  {Template State : Type}
  {render : Template → Value → ExceptT EvaluationError (StateM State) Value}

theorem follows_lens
    {base : Value} {templates rest : List Template} {given : List Value}
    (left : templates.drop given.length = rest)
    (state : State) :
    Follows render (Plan.lens base templates) (given, state)
      ((lens render (given.getLast?.getD base) rest).run.run state) := by
  induction rest generalizing given state with
  | nil =>
      have idle : (Plan.lens base templates).due given = none := by
        rw [Plan.lens]
        dsimp only
        rw [List.getElem?_eq_none (List.drop_eq_nil_iff.mp left),
          Option.map_none]
      exact follows_of_none idle state
  | cons template rest ih =>
      have next : templates[given.length]? = some template := by
        rw [← List.head?_drop, left, List.head?_cons]
      have isDue :
          (Plan.lens base templates).due given =
            some (template, given.getLast?.getD base) := by
        rw [Plan.lens]
        dsimp only
        rw [next, Option.map_some]
      apply follows_of_due isDue
      rw [lens, Pass.run_bind]
      rcases (render template (given.getLast?.getD base)).run.run state with
        ⟨outcome, behind⟩
      cases outcome with
      | error error => rfl
      | ok value =>
          have remaining :
              templates.drop (given ++ [value]).length = rest := by
            rw [List.length_append, ← List.drop_drop, left]
            rfl
          have further := ih remaining behind
          rwa [List.getLast?_concat, Option.getD_some] at further

/-- The items behind a first value are given by pairs, in their order. -/
theorem follows_renderPairs
    {plan : Plan Template} {scope : Value} {work rest : List (Template × Value)}
    (items : List Value)
    (dueItem :
      ∀ items : List Value, plan.due (scope :: items) = work[items.length]?)
    (outcome_eq :
      ∀ items : List Value,
        plan.outcome (scope :: items) = .ok (.array items))
    (left : work.drop items.length = rest)
    (state : State) :
    Follows render plan (scope :: items, state)
      (match (renderPairs render rest).run.run state with
        | (.error error, behind) => (.error error, behind)
        | (.ok more, behind) => (.ok (.array (items ++ more)), behind)) := by
  induction rest generalizing items state with
  | nil =>
      have idle : plan.due (scope :: items) = none := by
        rw [dueItem, List.getElem?_eq_none (List.drop_eq_nil_iff.mp left)]
      have done : Follows render plan _ _ := follows_of_none idle state
      rw [outcome_eq] at done
      show Follows render plan _ (.ok (.array (items ++ [])), state)
      rwa [List.append_nil]
  | cons pair rest ih =>
      rcases pair with ⟨template, document⟩
      have next : work[items.length]? = some (template, document) := by
        rw [← List.head?_drop, left, List.head?_cons]
      apply follows_of_due ((dueItem items).trans next)
      rw [renderPairs, Pass.run_bind]
      rcases (render template document).run.run state with ⟨outcome, behind⟩
      cases outcome with
      | error error => rfl
      | ok value =>
          dsimp only
          rw [Pass.run_bind]
          have remaining : work.drop (items ++ [value]).length = rest := by
            rw [List.length_append, ← List.drop_drop, left]
            rfl
          have further := ih (items ++ [value]) remaining behind
          rcases more : (renderPairs render rest).run.run behind with
            ⟨outcome, final⟩
          rw [more] at further
          cases outcome with
          | error error => exact further
          | ok others =>
              dsimp only at further
              rwa [List.append_assoc] at further

theorem renderAll_eq_renderPairs (scope : Value) (templates : List Template) :
    renderAll render scope templates =
      renderPairs render
        (templates.map fun template => (template, scope)) := by
  induction templates with
  | nil => rfl
  | cons template rest ih =>
      rw [renderAll, List.map_cons, renderPairs, ih]

theorem follows_lead
    (origin : Value) (templates : List Template) (state : State) :
    Follows render (Plan.lead origin templates) ([], state)
      ((lead render origin templates).run.run state) := by
  cases templates with
  | nil => exact follows_of_none rfl state
  | cons leader rest =>
      have isDue :
          (Plan.lead origin (leader :: rest)).due [] = some (leader, origin) :=
        rfl
      apply follows_of_due isDue
      rw [lead, Pass.run_bind]
      rcases (render leader origin).run.run state with ⟨outcome, behind⟩
      cases outcome with
      | error error => rfl
      | ok scope =>
          dsimp only
          rw [renderAll_eq_renderPairs, Pass.run_bind]
          have dueItem (items : List Value) :
              (Plan.lead origin (leader :: rest)).due (scope :: items) =
                ((leader :: rest).map fun template =>
                  (template, scope))[items.length]? :=
            (List.getElem?_map ..).symm
          have further :
              Follows render (Plan.lead origin (leader :: rest)) _ _ :=
            follows_renderPairs [] dueItem (fun _ => rfl) rfl behind
          rcases more : (renderPairs render
              ((leader :: rest).map fun template =>
                (template, scope))).run.run behind with ⟨outcome, final⟩
          rw [List.length_nil, List.drop_zero, more] at further
          cases outcome with
          | error error => exact further
          | ok items => exact further

theorem follows_zip
    (origin : Value) (templates : List Template) (state : State) :
    Follows render (Plan.zip origin templates) ([], state)
      ((zip render origin templates).run.run state) := by
  cases templates with
  | nil => exact follows_of_none rfl state
  | cons leader rest =>
      have isDue :
          (Plan.zip origin (leader :: rest)).due [] = some (leader, origin) :=
        rfl
      apply follows_of_due isDue
      rw [zip, Pass.run_bind]
      rcases (render leader origin).run.run state with ⟨outcome, behind⟩
      cases outcome with
      | error error => rfl
      | ok scope =>
          dsimp only
          cases scope with
          | array documents =>
              dsimp only
              rw [Pass.run_bind]
              have further :
                  Follows render (Plan.zip origin (leader :: rest)) _ _ :=
                follows_renderPairs []
                  (Plan.due_zip_array origin leader rest documents)
                  (fun _ => rfl) rfl behind
              rcases more :
                  (renderPairs render (pairs rest documents)).run.run behind
                with ⟨outcome, final⟩
              rw [List.length_nil, List.drop_zero, more] at further
              cases outcome with
              | error error => exact further
              | ok items => exact further
          | null | bool | number | text | object =>
              exact follows_of_none rfl behind

/-- The value that templates make of a node comes of following the plan of the mode. -/
theorem follows_compose
    (mode : InceptionMode) (environment : Environment) (node : Node)
    (templates : List Template) (state : State) :
    Follows render
      (.ofMode mode environment.origin (node.value.getD .null) templates)
      ([], state)
      ((compose mode render environment node templates).run.run state) := by
  cases mode with
  | lens => exact follows_lens rfl state
  | lead => exact follows_lead environment.origin templates state
  | zip => exact follows_zip environment.origin templates state

end Modes

end Composition

/-! ## Composing the templates of a node -/

namespace Node

/-- The node as it is composed: prepared, unless a mode is set already. -/
def ready (node : Node) : Node :=
  if node.mode.isNone then node.prepare else node

/-- The depth that a node is composed with. -/
def reach (node : Node) : Depth :=
  node.ready.depth.getD .unbounded

@[simp]
theorem value_prepare (node : Node) : node.prepare.value = node.value := by
  rw [prepare]
  split
  · rfl
  · rfl

@[simp]
theorem value_ready (node : Node) : node.ready.value = node.value := by
  rw [ready]
  split
  · exact node.value_prepare
  · rfl

variable
  {Template State : Type} {render : Renderer Template (StateM State)}
  {environment : Environment} {mark : Mark} {node : Node}
  {templates : List Template} {mode : InceptionMode}

theorem composeTemplates_of_declared
    (declared : node.ready.mode = some mode) :
    node.composeTemplates render environment mark templates =
      match node.reach.below? with
      | none => throw (.depthExceeded mode)
      | some budget => do
        let value ←
          Composition.compose mode
            (fun template document => render template document budget)
            environment node.ready templates
        return node.ready.withValue (some value) mark := by
  rw [composeTemplates, ← ready, declared]
  rfl

/-- No template is rendered when no level is left to compose. -/
theorem run_composeTemplates_of_exceeded
    (declared : node.ready.mode = some mode)
    (exceeded : node.reach.below? = none)
    (state : State) :
    (node.composeTemplates render environment mark templates).run.run state =
      (.error (.depthExceeded mode), state) := by
  rw [composeTemplates_of_declared declared, exceeded]
  rfl

theorem run_composeTemplates_of_below
    {budget : Depth}
    (declared : node.ready.mode = some mode)
    (below : node.reach.below? = some budget)
    (state : State) :
    (node.composeTemplates render environment mark templates).run.run state =
      match (Composition.compose mode
          (fun template document => render template document budget)
          environment node.ready templates).run.run state with
      | (.error error, behind) => (.error error, behind)
      | (.ok value, behind) =>
        (.ok (node.ready.withValue (some value) mark), behind) := by
  rw [composeTemplates_of_declared declared, below]
  dsimp only
  rw [Pass.run_bind]
  rcases (Composition.compose mode
      (fun template document => render template document budget)
      environment node.ready templates).run.run state with ⟨outcome, behind⟩
  cases outcome with
  | error error => rfl
  | ok value => rfl

/-- A node is composed by following the plan of its mode. -/
theorem exists_follows_composeTemplates
    {budget : Depth}
    (declared : node.ready.mode = some mode)
    (below : node.reach.below? = some budget)
    (state : State) :
    ∃ composed behind,
      Composition.Follows
          (fun template document => render template document budget)
          (.ofMode mode environment.origin (node.value.getD .null) templates)
          ([], state) (composed, behind) ∧
        (node.composeTemplates render environment mark templates).run.run
            state =
          (composed.map fun value => node.ready.withValue (some value) mark,
            behind) := by
  have follows :
      Composition.Follows
        (fun template document => render template document budget) _ _ _ :=
    Composition.follows_compose mode environment node.ready templates state
  rw [value_ready] at follows
  rw [run_composeTemplates_of_below declared below]
  rcases composing : (Composition.compose mode
      (fun template document => render template document budget)
      environment node.ready templates).run.run state with ⟨composed, behind⟩
  rw [composing] at follows
  refine ⟨composed, behind, follows, ?_⟩
  cases composed with
  | error error => rfl
  | ok value => rfl

/-- However the plan of a node is followed, it ends as the composition does. -/
theorem run_composeTemplates_of_follows
    {budget : Depth} {state behind : State}
    {composed : Except EvaluationError Value}
    (declared : node.ready.mode = some mode)
    (below : node.reach.below? = some budget)
    (follows :
      Composition.Follows
        (fun template document => render template document budget)
        (.ofMode mode environment.origin (node.value.getD .null) templates)
        ([], state) (composed, behind)) :
    (node.composeTemplates render environment mark templates).run.run state =
      (composed.map fun value => node.ready.withValue (some value) mark,
        behind) := by
  rcases exists_follows_composeTemplates declared below state with
    ⟨_, _, followed, run⟩
  cases Composition.follows_unique follows followed
  exact run

/--
A node whose depth leaves a budget is composed by making, within that budget,
the renders that are due in the plan of its mode, one after the other, up to
the first failure or to the last of them.  Without templates nothing is
rendered.
-/
theorem composeTemplates_follows_iff
    {Template State : Type}
    (render : Renderer Template (StateM State))
    (environment : Environment) (mark : Mark) (node : Node)
    (templates : List Template) (state : State)
    (mode : InceptionMode) (budget : Depth)
    (declared : node.ready.mode = some mode)
    (below : node.reach.below? = some budget)
    (outcome : Except EvaluationError Node) (behind : State) :
    ((node.composeTemplates render environment mark templates).run.run state =
        (outcome, behind) ↔
      ∃ composed,
        Composition.Follows
            (fun template document => render template document budget)
            (.ofMode mode environment.origin (node.value.getD .null) templates)
            ([], state) (composed, behind) ∧
          outcome =
            composed.map fun value =>
              node.ready.withValue (some value) mark) ∧
    (templates = [] →
      (node.composeTemplates render environment mark templates).run.run state =
        (.ok (node.ready.withValue
            (some (if mode = .lens then node.value.getD .null else .array []))
            mark),
          state)) := by
  refine ⟨⟨?_, ?_⟩, ?_⟩
  · intro run
    rcases exists_follows_composeTemplates declared below state with
      ⟨composed, final, follows, composes⟩
    rw [composes] at run
    cases run
    exact ⟨composed, follows, rfl⟩
  · rintro ⟨composed, follows, rfl⟩
    exact run_composeTemplates_of_follows declared below follows
  · rintro rfl
    rw [run_composeTemplates_of_below declared below, ← value_ready]
    cases mode with
    | lens => rfl
    | lead => rfl
    | zip => rfl

/-- A renderer that keeps the budgets of its renders; it fails on null. -/
def budgeting : Renderer Value (StateM (List Depth)) :=
  fun template document budget => do
    modify (· ++ [budget])
    match document with
    | .null => throw (.unresolvedFunction "null")
    | _ => return template

/-- The only template behind the leader is rendered on each item, up to the first failure. -/
theorem composeTemplates_follows_each :
    ∃ composed,
      Composition.Follows
          (fun template document => budgeting template document (.finite 1))
          (.ofMode .zip (.bool true) .null
            [.array [.bool true, .null, .bool true], .text "item"])
          ([], []) (composed, [.finite 1, .finite 1, .finite 1]) ∧
        Except.error (.unresolvedFunction "null") =
          composed.map fun value =>
            withValue
              { operators := { inception := some ⟨.zip, .finite 2⟩ },
                mode := some .zip, depth := some (.finite 2) }
              (some value) Mark.inception :=
  (composeTemplates_follows_iff budgeting
    { sources := .ofList [("origin", .bool true)] } Mark.inception
    { operators := { inception := some ⟨.zip, .finite 2⟩ } }
    [.array [.bool true, .null, .bool true], .text "item"] []
    .zip (.finite 1) rfl rfl _ _).1.mp rfl

end Node

end Stencil
