import Stencil.Proofs.Evaluation.Effect
import Stencil.Proofs.Evaluation.Resolution
import Stencil.Proofs.TagTable.Padding

/-!
# The faults that end an evaluation

Five kinds of faults end the evaluation of a node, and nothing else does: a
path that is no query, in the origin or in the document that a constraint
consults, the reserved symbol, a tag that cannot be written, and a pipe that
cannot be resolved or fails.  Each of them is stated by itself, and the error
of an evaluation is that of the first one that occurs.
-/

namespace Stencil

/-! ## Pipes -/

theorem PipeStage.call_eq_error_iff
    {stage : PipeStage} {value : Value} {error : EvaluationError} :
    stage.call value = .error error ↔
      ∃ cause,
        stage.function (stage.slots.map (Slot.fill value)) = .error cause ∧
          error = .function stage.name cause := by
  rw [call]
  cases stage.function (stage.slots.map (Slot.fill value)) with
  | error cause => simp [eq_comm]
  | ok result => simp

namespace Pipeline

theorem run_cons_of_ok
    {stage : PipeStage} {rest : List PipeStage} {value result : Value}
    (called : stage.call value = .ok result) :
    run (stage :: rest) value = run rest result := by
  rw [run, called]

theorem run_cons_of_error
    {stage : PipeStage} {rest : List PipeStage} {value : Value}
    {error : EvaluationError}
    (called : stage.call value = .error error) :
    run (stage :: rest) value = .error error := by
  rw [run, called]

/-- A pipeline fails at the first stage that fails on what the ones before it made. -/
theorem run_eq_error_iff
    {stages : List PipeStage} {value : Value} {error : EvaluationError} :
    run stages value = .error error ↔
      ∃ before stage behind input,
        stages = before ++ stage :: behind ∧
          run before value = .ok input ∧
          stage.call input = .error error := by
  induction stages generalizing value with
  | nil =>
      constructor
      · intro failed
        cases failed
      · rintro ⟨before, stage, behind, _, split, _⟩
        simp at split
  | cons first rest ih =>
      cases called : first.call value with
      | error cause =>
          rw [run_cons_of_error called]
          constructor
          · intro failed
            exact ⟨[], first, rest, value, rfl, rfl, called.trans failed⟩
          · rintro ⟨before, stage, behind, input, split, piped, failed⟩
            cases before with
            | nil =>
                rcases List.cons.inj split with ⟨rfl, rfl⟩
                rcases Except.ok.inj piped with rfl
                exact called.symm.trans failed
            | cons other before =>
                rcases List.cons.inj split with ⟨rfl, rfl⟩
                rw [run_cons_of_error called] at piped
                cases piped
      | ok result =>
          rw [run_cons_of_ok called, ih]
          constructor
          · rintro ⟨before, stage, behind, input, rfl, piped, failed⟩
            refine ⟨first :: before, stage, behind, input, rfl, ?_, failed⟩
            rw [run_cons_of_ok called]
            exact piped
          · rintro ⟨before, stage, behind, input, split, piped, failed⟩
            cases before with
            | nil =>
                rcases List.cons.inj split with ⟨rfl, rfl⟩
                rcases Except.ok.inj piped with rfl
                rw [called] at failed
                cases failed
            | cons other before =>
                rcases List.cons.inj split with ⟨rfl, rfl⟩
                rw [run_cons_of_ok called] at piped
                exact ⟨before, stage, behind, input, rfl, piped, failed⟩

end Pipeline

namespace Node

/-! ## The faults -/

/-- A path is followed in a document that is there, but is no query. -/
structure Unreadable
    (document : Option Value) (path : String)
    (error : EvaluationError) : Prop where
  container : ∃ content ∈ document, content.isContainer = true
  malformed : Query.read? (Path.qualified path) = none
  error_eq : error = .path (.malformed (Path.qualified path))

end Node

/-- A constraint looks for the path of its node in a source, in place of a value. -/
inductive Constraint.Consults (settings : Settings) :
    Option Value → Constraint → String → Prop where
  | fallback (source : Option String) :
      Consults settings none (.fallback source none)
        (source.getD settings.fallbackSource)
  | alternate
      {source : String}
      (named : source ≠ "")
      (value : Option Value) (literal : Option String) :
      Consults settings value (.alternate source literal) source

namespace Node

variable (environment : Environment) (context : Location) (table : TagTable)
  (node : Node)

/-- The path is unreadable in the origin. -/
def OriginFault (error : EvaluationError) : Prop :=
  Unreadable (environment.sources.get? environment.settings.originSource)
    node.path error

/-- The path is unreadable in a document that the constraint consults. -/
inductive ConstraintFault : EvaluationError → Prop where
  | consulted
      {found : Node} {constraint : Constraint} {source : String}
      {error : EvaluationError}
      (dereferenced :
        node.dereference environment none Mark.dereference = .ok found)
      (declared : node.operators.constraint = some constraint)
      (consults :
        constraint.Consults environment.settings
          (collapsed node.operators.query found.value) source)
      (unreadable :
        Unreadable (sourceNamed environment table source) node.path error) :
      ConstraintFault error

/-- The symbol is the one that is reserved. -/
def ReservedFault (error : EvaluationError) : Prop :=
  node.operators.symbol = some .reserved ∧
    error = .unimplemented .symbol ":"

/-- The path of the tag is no location, or the value lies out of its reach. -/
inductive TagFault : EvaluationError → Prop where
  | path
      {written : Option String} {cause : PathError}
      (declared : node.operators.symbol = some (.tag written))
      (refused :
        Path.locate ((written.map Path.qualified).getD context.text) =
          .error cause) :
      TagFault (.path cause)
  | reach
      {written : Option String} {settled : Node} {path : String}
      {location before : Location} {position : Nat}
      (declared : node.operators.symbol = some (.tag written))
      (settles : node.settled environment table = .ok settled)
      (defined : settled.value.isSome = true)
      (tagged : tagPath context (.tag written) = .ok path)
      (located : Path.locate path = .ok location)
      (far :
        Value.FirstOverreach (some table.document) location before
          position) :
      TagFault
        (.path
          (.indexOutOfRange location.text position
            (Value.lengthAt (some table.document) before)))

/-- The pipes cannot be resolved, or one of their functions fails on what it is given. -/
inductive PipeFault : EvaluationError → Prop where
  | resolution
      {pipes : List (String × Value)} {error : EvaluationError}
      (declared : node.pipes = some pipes)
      (first : FirstFault (Pipeline.faults environment pipes) error) :
      PipeFault error
  | call
      {pipes : List (String × Value)} {settled : Node}
      {before behind : List PipeStage} {stage : PipeStage}
      {input : Value} {cause : FunctionError}
      (declared : node.pipes = some pipes)
      (resolves :
        Pipeline.Resolves environment pipes (before ++ stage :: behind))
      (settles : node.settled environment table = .ok settled)
      (piped :
        Pipeline.run before
            ((settled.enumerate Mark.enumerate).value.getD .null) =
          .ok input)
      (failed :
        stage.function (stage.slots.map (Slot.fill input)) =
          .error cause) :
      PipeFault (.function stage.name cause)

/-- The faults of an evaluation, in the order in which they count. -/
def faults : List (EvaluationError → Prop) :=
  [node.OriginFault environment,
    node.ConstraintFault environment table,
    node.ReservedFault,
    node.TagFault environment context table,
    node.PipeFault environment table]

variable
  {environment context table node}
  {settled recorded : Node} {error : EvaluationError}

/-! ## Looking a value up -/

theorem follow_eq_error_iff
    (picks : environment.select = Path.select)
    (document : Option Value) (mark : Mark) :
    node.follow environment document mark = .error error ↔
      Unreadable document node.path error := by
  constructor
  · intro failed
    rw [follow.eq_def] at failed
    split at failed
    · cases failed
    · cases failed
    · next content _ =>
        split at failed
        · next container =>
            rw [picks, Path.select] at failed
            cases malformed : Query.read? (Path.qualified node.path) with
            | some query =>
                rw [malformed] at failed
                cases failed
            | none =>
                rw [malformed] at failed
                exact
                  ⟨⟨content, rfl, container⟩, malformed,
                    (Except.error.inj failed).symm⟩
        · cases failed
  · rintro ⟨⟨content, rfl, container⟩, malformed, rfl⟩
    have refused :
        environment.select content (Path.qualified node.path) =
          .error (.malformed (Path.qualified node.path)) := by
      rw [picks, Path.select, malformed]
    rw [follow.eq_def]
    cases content with
    | array items =>
        dsimp only
        rw [if_pos container, refused]
    | object members =>
        dsimp only
        rw [if_pos container, refused]
    | _ => cases container

theorem lookup_eq_error_iff
    (picks : environment.select = Path.select)
    (source : String) :
    node.lookup environment table source = .error error ↔
      Unreadable (sourceNamed environment table source) node.path error := by
  rw [lookup, map_eq_error_iff, follow_eq_error_iff picks]

/-- A constraint fails only in the document that it consults. -/
theorem supplied_eq_error_iff
    (picks : environment.select = Path.select)
    (constraint : Constraint) :
    node.supplied environment table constraint = .error error ↔
      ∃ source,
        constraint.Consults environment.settings node.value source ∧
          Unreadable (sourceNamed environment table source) node.path
            error := by
  rw [supplied.eq_def]
  -- A document is consulted or not by the value alone; following the path ignores it.
  generalize node.value = value
  cases constraint with
  | fallback source literal =>
      cases value with
      | some value =>
          constructor
          · intro failed
            cases failed
          · rintro ⟨_, ⟨⟩, _⟩
      | none =>
          cases literal with
          | some written =>
              constructor
              · intro failed
                cases failed
              · rintro ⟨_, ⟨⟩, _⟩
          | none =>
              dsimp only
              rw [lookup_eq_error_iff picks]
              constructor
              · intro unreadable
                exact ⟨_, .fallback source, unreadable⟩
              · rintro ⟨_, ⟨⟩, unreadable⟩
                exact unreadable
  | alternate source literal =>
      dsimp only
      by_cases blank : source = ""
      · rw [if_pos blank]
        constructor
        · intro failed
          cases failed
        · rintro ⟨_, consults, _⟩
          cases consults with
          | alternate named => exact absurd blank named
      · rw [if_neg blank, map_eq_error_iff, lookup_eq_error_iff picks]
        constructor
        · intro unreadable
          exact ⟨source, .alternate blank value literal, unreadable⟩
        · rintro ⟨_, ⟨⟩, unreadable⟩
          exact unreadable
  | handler name argument =>
      dsimp only
      constructor
      · intro failed
        split at failed
        · cases failed
        · cases failed
      · rintro ⟨_, ⟨⟩, _⟩

theorem constrain_eq_error_iff
    (picks : environment.select = Path.select)
    (mark : Mark) :
    node.constrain environment table mark = .error error ↔
      ∃ constraint source,
        node.operators.constraint = some constraint ∧
          constraint.Consults environment.settings node.value source ∧
          Unreadable (sourceNamed environment table source) node.path
            error := by
  rw [constrain]
  cases declared : node.operators.constraint with
  | none => simp
  | some constraint =>
      dsimp only
      rw [map_eq_error_iff, supplied_eq_error_iff picks]
      simp

theorem constrain_collapse_eq_error_iff
    {found : Node}
    (picks : environment.select = Path.select)
    (dereferenced :
      node.dereference environment none Mark.dereference = .ok found) :
    (found.collapse Mark.query).constrain environment table
        Mark.constraint = .error error ↔
      node.ConstraintFault environment table error := by
  rw [constrain_eq_error_iff picks]
  rcases exists_withValue_of_dereference dereferenced with
    ⟨value, marked, rfl⟩
  constructor
  · rintro ⟨constraint, source, declared, consults, unreadable⟩
    exact .consulted dereferenced declared consults unreadable
  · intro fault
    cases fault with
    | consulted again declared consults unreadable =>
        rw [dereferenced] at again
        cases again
        exact ⟨_, _, declared, consults, unreadable⟩

/-! ## Writing a tag -/

theorem tagPath_tag_eq_error_iff
    {written : Option String} :
    tagPath context (.tag written) = .error error ↔
      ∃ cause,
        Path.locate ((written.map Path.qualified).getD context.text) =
            .error cause ∧
          error = .path cause := by
  rw [tagPath, Path.canonical]
  cases Path.locate ((written.map Path.qualified).getD context.text) with
  | error cause => simp [Except.map, eq_comm]
  | ok location => simp [Except.map]

theorem recordIn_eq_error_iff
    {path : String} :
    node.recordIn table path = .error error ↔
      ∃ value cause,
        node.value = some value ∧
          table.insert path value = .error cause ∧
          error = .path cause := by
  rw [recordIn]
  cases node.value with
  | none => simp
  | some value =>
      cases outcome : table.insert path value with
      | error cause => simp [outcome, eq_comm]
      | ok inserted => simp [outcome]

/-- The path of a tag is a location again, so only an index can be in the way of its value. -/
theorem recordIn_eq_error_iff_of_tagPath
    {symbol : SymbolOperator} {path : String}
    (tagged : tagPath context symbol = .ok path) :
    node.recordIn table path = .error error ↔
      ∃ location before position,
        node.value.isSome = true ∧
          Path.locate path = .ok location ∧
          Value.FirstOverreach (some table.document) location before
            position ∧
          error =
            .path
              (.indexOutOfRange location.text position
                (Value.lengthAt (some table.document) before)) := by
  rcases exists_text_of_tagPath tagged with ⟨canonical, bounded, rfl⟩
  have located := Path.locate_text bounded
  rw [recordIn_eq_error_iff]
  constructor
  · rintro ⟨value, cause, defined, refused, rfl⟩
    rcases TagTable.insert_eq_error_iff.mp refused with
      unlocated | ⟨location, before, position, found, far, rfl⟩
    · rw [located] at unlocated
      cases unlocated
    · rw [defined]
      exact ⟨location, before, position, rfl, found, far, rfl⟩
  · rintro ⟨location, before, position, defined, found, far, rfl⟩
    rcases Option.isSome_iff_exists.mp defined with ⟨value, held⟩
    refine ⟨value, _, held, ?_, rfl⟩
    exact
      TagTable.insert_eq_error_iff.mpr
        (.inr ⟨location, before, position, found, far, rfl⟩)

theorem tagFault_iff
    {written : Option String}
    (declared : node.operators.symbol = some (.tag written))
    (settles : node.settled environment table = .ok settled) :
    node.TagFault environment context table error ↔
      tagPath context (.tag written) = .error error ∨
        ∃ path,
          tagPath context (.tag written) = .ok path ∧
            settled.recordIn table path = .error error := by
  constructor
  · intro fault
    cases fault with
    | path other refused =>
        rw [declared] at other
        cases other
        exact Or.inl (tagPath_tag_eq_error_iff.mpr ⟨_, refused, rfl⟩)
    | reach other again defined tagged located far =>
        rw [declared] at other
        cases other
        rw [settles] at again
        cases again
        exact Or.inr
          ⟨_, tagged,
            (recordIn_eq_error_iff_of_tagPath tagged).mpr
              ⟨_, _, _, defined, located, far, rfl⟩⟩
  · rintro (refused | ⟨path, tagged, refused⟩)
    · rcases tagPath_tag_eq_error_iff.mp refused with ⟨cause, unlocated, rfl⟩
      exact .path declared unlocated
    · rcases (recordIn_eq_error_iff_of_tagPath tagged).mp refused with
        ⟨location, before, position, defined, located, far, rfl⟩
      exact .reach declared settles defined tagged located far

theorem symbol_of_tagFault
    (fault : node.TagFault environment context table error) :
    ∃ written, node.operators.symbol = some (.tag written) := by
  cases fault with
  | path declared _ => exact ⟨_, declared⟩
  | reach declared _ _ _ _ _ => exact ⟨_, declared⟩

/-- The symbol fails when it is reserved, and else when its tag cannot be written. -/
theorem record_eq_error_iff
    (settles : node.settled environment table = .ok settled)
    (mark : Mark) :
    ((settled.record context mark).run.run table).1 = .error error ↔
      FirstFault
        [node.ReservedFault, node.TagFault environment context table]
        error := by
  rw [run_record_eq, operators_eq_of_settled settles,
    firstFault_cons_iff, firstFault_singleton_iff]
  cases declared : node.operators.symbol with
  | none =>
      constructor
      · intro failed
        cases failed
      · rintro (⟨reserved, _⟩ | ⟨_, fault⟩)
        · rw [declared] at reserved
          cases reserved
        · rcases symbol_of_tagFault fault with ⟨_, tagged⟩
          rw [declared] at tagged
          cases tagged
  | some symbol =>
      cases symbol with
      | reserved =>
          constructor
          · intro failed
            exact Or.inl ⟨declared, (Except.error.inj failed).symm⟩
          · rintro (⟨_, rfl⟩ | ⟨unreserved, _⟩)
            · rfl
            · exact absurd ⟨declared, rfl⟩ (unreserved _)
      | tag written =>
          have unreserved : ∀ other, ¬node.ReservedFault other := by
            rintro other ⟨reserved, _⟩
            rw [declared] at reserved
            cases reserved
          have reduced :
              node.ReservedFault error ∨
                  (∀ other, ¬node.ReservedFault other) ∧
                    node.TagFault environment context table error ↔
                node.TagFault environment context table error := by
            simp [unreserved]
          rw [reduced, tagFault_iff declared settles]
          dsimp only
          cases tagPath context (.tag written) with
          | error cause => simp
          | ok path =>
              cases refused : settled.recordIn table path with
              | error cause => simp [refused]
              | ok next => simp [refused]

/-! ## Running the pipes -/

theorem pipe_eq_error_iff
    (mark : Mark) :
    node.pipe environment mark = .error error ↔
      ∃ pipes,
        node.pipes = some pipes ∧
          (Pipeline.ofMembers environment pipes = .error error ∨
            ∃ stages,
              Pipeline.ofMembers environment pipes = .ok stages ∧
                Pipeline.run stages (node.value.getD .null) =
                  .error error) := by
  rw [pipe]
  cases node.pipes with
  | none => simp
  | some pipes =>
      cases resolved : Pipeline.ofMembers environment pipes with
      | error cause => simp [resolved]
      | ok stages =>
          simp [resolved, map_eq_error_iff]

theorem enumerate_value_eq
    {result : Node}
    (operators : result.operators = node.operators)
    (value : result.value = node.value)
    (mark : Mark) :
    (result.enumerate mark).value = (node.enumerate mark).value := by
  rw [enumerate.eq_def, enumerate.eq_def, operators]
  split
  · exact value
  · simp only [withValue, value]
  · simp only [withValue, value]

theorem pipeFault_iff
    (settles : node.settled environment table = .ok settled) :
    node.PipeFault environment table error ↔
      ∃ pipes,
        node.pipes = some pipes ∧
          (Pipeline.ofMembers environment pipes = .error error ∨
            ∃ stages,
              Pipeline.ofMembers environment pipes = .ok stages ∧
                Pipeline.run stages
                    ((settled.enumerate Mark.enumerate).value.getD
                      .null) =
                  .error error) := by
  constructor
  · intro fault
    cases fault with
    | resolution declared first =>
        exact ⟨_, declared, .inl (Pipeline.ofMembers_eq_error_iff.mpr first)⟩
    | call declared resolves again piped failed =>
        rw [settles] at again
        cases again
        refine
          ⟨_, declared, .inr ⟨_, Pipeline.ofMembers_eq_ok_iff.mpr resolves, ?_⟩⟩
        rw [Pipeline.run_eq_error_iff]
        exact
          ⟨_, _, _, _, rfl, piped,
            PipeStage.call_eq_error_iff.mpr ⟨_, failed, rfl⟩⟩
  · rintro ⟨pipes, declared, refused | ⟨stages, resolved, failed⟩⟩
    · exact .resolution declared (Pipeline.ofMembers_eq_error_iff.mp refused)
    · rcases Pipeline.run_eq_error_iff.mp failed with
        ⟨before, stage, behind, input, rfl, piped, called⟩
      rcases PipeStage.call_eq_error_iff.mp called with
        ⟨cause, thrown, rfl⟩
      exact
        .call declared (Pipeline.ofMembers_eq_ok_iff.mp resolved) settles piped
          thrown

/-- The pipes run on what the enumeration makes of the value on which the node settles. -/
theorem pipe_enumerate_eq_error_iff
    (settles : node.settled environment table = .ok settled)
    (records :
      ((settled.record context Mark.symbol).run.run table).1 =
        .ok recorded) :
    (recorded.enumerate Mark.enumerate).pipe environment Mark.pipe =
        .error error ↔
      node.PipeFault environment table error := by
  have recordedAs :
      ∃ marked tag, recorded = { settled.withMark marked with tag } := by
    rcases run : (settled.record context Mark.symbol).run.run table with
      ⟨outcome, behind⟩
    rw [run] at records
    rcases records with rfl
    exact exists_tag_of_record run
  have settledAs := exists_withValue_of_settled settles
  have pipes : (recorded.enumerate Mark.enumerate).pipes = node.pipes := by
    rcases exists_withValue_enumerate Mark.enumerate recorded with
      ⟨_, _, expanded⟩
    rcases recordedAs with ⟨_, _, rfl⟩
    rcases settledAs with ⟨_, _, rfl⟩
    rw [expanded]
    rfl
  have value :
      (recorded.enumerate Mark.enumerate).value =
        (settled.enumerate Mark.enumerate).value := by
    rcases recordedAs with ⟨marked, tag, tagged⟩
    apply enumerate_value_eq
    · rw [tagged]
      rfl
    · rw [tagged]
      rfl
  rw [pipe_eq_error_iff, pipeFault_iff settles, pipes, value]

/-! ## The whole evaluation -/

theorem outcome_evaluate_eq :
    ((node.evaluate environment context).run.run table).1 =
      (node.dereference environment none Mark.dereference).bind fun found =>
        ((found.collapse Mark.query).constrain environment table
            Mark.constraint).bind fun settled =>
          (((settled.record context Mark.symbol).run.run table).1).bind
            fun recorded =>
              (recorded.enumerate Mark.enumerate).pipe environment
                Mark.pipe := by
  rw [run_evaluate_eq, settled]
  cases node.dereference environment none Mark.dereference with
  | error error => rfl
  | ok found =>
      dsimp only [Except.bind]
      cases (found.collapse Mark.query).constrain environment table
          Mark.constraint with
      | error error => rfl
      | ok settled =>
          dsimp only
          rcases (settled.record context Mark.symbol).run.run table with
            ⟨outcome, behind⟩
          cases outcome with
          | error error => rfl
          | ok recorded => rfl

/--
Where paths are followed as queries, an evaluation fails exactly when one of
its faults occurs, and its error is that of the first one.
-/
theorem evaluate_eq_error_iff_firstFault
    (picks : environment.select = Path.select)
    (context : Location) (table : TagTable) (node : Node) :
    (∀ error,
      ((node.evaluate environment context).run.run table).1 =
          .error error ↔
        FirstFault (node.faults environment context table) error) ∧
    ((∃ error,
      ((node.evaluate environment context).run.run table).1 =
          .error error) ↔
        ∃ fault ∈ node.faults environment context table,
          ∃ error, fault error) := by
  have exactly :
      ∀ error,
        ((node.evaluate environment context).run.run table).1 =
            .error error ↔
          FirstFault (node.faults environment context table) error := by
    rw [outcome_evaluate_eq]
    show ∀ error, _ ↔
      FirstFault
        ([node.OriginFault environment] ++
          ([node.ConstraintFault environment table] ++
            ([node.ReservedFault, node.TagFault environment context table] ++
              [node.PipeFault environment table])))
        error
    apply bind_eq_error_iff_firstFault
    · intro error
      rw [firstFault_singleton_iff]
      exact follow_eq_error_iff picks _ _
    · intro found dereferenced
      apply bind_eq_error_iff_firstFault
      · intro error
        rw [firstFault_singleton_iff]
        exact constrain_collapse_eq_error_iff picks dereferenced
      · intro settled constrained
        have settles : node.settled environment table = .ok settled := by
          rw [Node.settled, dereferenced]
          exact constrained
        apply bind_eq_error_iff_firstFault
        · intro error
          exact record_eq_error_iff settles Mark.symbol
        · intro recorded records error
          rw [firstFault_singleton_iff]
          exact pipe_enumerate_eq_error_iff settles records
  refine ⟨exactly, ?_⟩
  rw [← exists_firstFault_iff]
  exact exists_congr exactly

/--
A path that a scalar origin lets pass fails in the tags, in front of a reserved
symbol.  Where nothing consults the tags, the pipe that names no function fails.
-/
theorem evaluate_first_faults :
    ((Node.evaluate
          { sources := .ofList [("origin", .bool true)] } []
          { path := "[",
            operators :=
              { constraint := some (.alternate "tags" none),
                symbol := some .reserved } }).run.run {}).1 =
        .error (.path (.malformed "$[")) ∧
      ((Node.evaluate
            { sources := .ofList [("origin", .bool true)] } []
            { path := "[",
              pipes := some [("$1", .text "gone")] }).run.run {}).1 =
        .error (.unresolvedFunction "gone") := by
  have scalar :
      ∀ other,
        ¬Unreadable ((Registry.ofList [("origin", Value.bool true)]).get? "origin")
          "[" other := by
    rintro other ⟨⟨content, held, container⟩, _, _⟩
    rcases Option.some.inj held with rfl
    cases container
  constructor
  · refine ((evaluate_eq_error_iff_firstFault rfl [] {} _).1 _).mpr
      (.behind scalar (.here ?_))
    have named : "tags" ≠ "" := by decide
    exact
      .consulted rfl rfl (.alternate named _ none)
        ⟨⟨Value.emptyObject, rfl, rfl⟩, rfl, rfl⟩
  · refine ((evaluate_eq_error_iff_firstFault rfl [] {} _).1 _).mpr
      (.behind scalar (.behind ?_ (.behind ?_ (.behind ?_ (.here ?_)))))
    · rintro other ⟨_, declared, _, _⟩
      cases declared
    · rintro other ⟨reserved, _⟩
      cases reserved
    · intro other fault
      rcases symbol_of_tagFault fault with ⟨_, declared⟩
      cases declared
    · have pieces : Pipeline.pieces "gone" = ["gone"] := by decide +kernel
      refine .resolution rfl (.behind ?_ (.here ?_))
      · exact PipeEntry.isOk_ofMember_iff.mp rfl
      · exact .unregistered rfl pieces (by decide) rfl

end Node

end Stencil
