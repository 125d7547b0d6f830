import Stencil.CommandLine
import Stencil.Proofs.Evaluation.Running
import Stencil.Proofs.TagTable.History

/-!
# What a pass records

Evaluating a node changes the table of tags by at most one insertion, the one
that its symbol asks for, and a later stage that fails does not undo it.  So
the table behind a pass is made of the recordings of its visits, one after the
other.  A recording lasts as long as no later one meets its location and none
needs a container of another kind on the way to it.
-/

namespace Stencil

/-- A value that is recorded, with its location. -/
structure Recording where
  /-- The location. -/
  location : Location
  /-- The value. -/
  value : Value

namespace TagTable

/-! ## Recordings one after the other -/

/-- The table behind recordings. -/
def recordAll (table : TagTable) : List Recording → TagTable
  | [] => table
  | recording :: rest =>
    (table.recordAt recording.location recording.value).recordAll rest

theorem recordAll_append
    (table : TagTable) (earlier later : List Recording) :
    table.recordAll (earlier ++ later) =
      (table.recordAll earlier).recordAll later := by
  induction earlier generalizing table with
  | nil => rfl
  | cons recording earlier ih => exact ih _

theorem Reflects.recordAll
    {table : TagTable} {locations : List Location}
    (reflects : table.Reflects locations)
    (recordings : List Recording) :
    (table.recordAll recordings).Reflects
      (locations ++ recordings.map Recording.location) := by
  induction recordings generalizing table locations with
  | nil => simpa [TagTable.recordAll] using reflects
  | cons recording rest ih =>
      have recorded := reflects.recordAt recording.location recording.value
      simpa [TagTable.recordAll] using ih recorded

/-- Recordings at places beside a location leave what it leads to. -/
theorem at?_recordAll_of_beside
    {table : TagTable} {location : Location} {value : Value}
    (present : table.document.at? location = some value)
    {recordings : List Recording}
    (beside :
      ∀ other ∈ recordings, location.Beside other.location) :
    (table.recordAll recordings).document.at? location = some value := by
  induction recordings generalizing table with
  | nil => exact present
  | cons other rest ih =>
      rcases List.forall_mem_cons.mp beside with ⟨first, later⟩
      apply ih _ later
      exact Value.at?_put_of_beside_of_some first present other.value

/-- A place that is gone, though nulls may have filled the gap. -/
def Vacant (table : TagTable) (location : Location) : Prop :=
  table.document.at? location = none ∨
    table.document.at? location = some .null

theorem vacant_recordAt_of_clashing
    {location : Location} {other : Recording}
    (clashing : location.Clashing other.location)
    (table : TagTable) :
    (table.recordAt other.location other.value).Vacant location :=
  Or.inl (Value.at?_put_of_clashing clashing table.document other.value)

theorem Vacant.recordAt_of_beside
    {table : TagTable} {location : Location} {other : Recording}
    (vacant : table.Vacant location)
    (beside : location.Beside other.location) :
    (table.recordAt other.location other.value).Vacant location := by
  rcases Value.at?_put_of_beside beside table.document other.value with
    same | ⟨_, gap⟩
  · rcases vacant with gone | filled
    · exact Or.inl (same.trans gone)
    · exact Or.inr (same.trans filled)
  · exact Or.inr gap

/-- What is gone stays gone while recordings neither lead to it nor come from it. -/
theorem Vacant.recordAll
    {table : TagTable} {location : Location}
    (vacant : table.Vacant location)
    {recordings : List Recording}
    (parted :
      ∀ other ∈ recordings,
        location.Beside other.location ∨ location.Clashing other.location) :
    (table.recordAll recordings).Vacant location := by
  induction recordings generalizing table with
  | nil => exact vacant
  | cons other rest ih =>
      rcases List.forall_mem_cons.mp parted with ⟨first, later⟩
      refine ih ?_ later
      rcases first with beside | clashing
      · exact vacant.recordAt_of_beside beside
      · exact vacant_recordAt_of_clashing clashing table

theorem vacant_recordAll_of_clashing
    (table : TagTable) {location : Location}
    {recordings : List Recording}
    (parted :
      ∀ other ∈ recordings,
        location.Beside other.location ∨ location.Clashing other.location)
    (clashing :
      ∃ other ∈ recordings, location.Clashing other.location) :
    (table.recordAll recordings).Vacant location := by
  rcases clashing with ⟨other, member, clash⟩
  rcases List.append_of_mem member with ⟨earlier, later, rfl⟩
  rw [recordAll_append, TagTable.recordAll]
  apply (vacant_recordAt_of_clashing clash _).recordAll
  intro next inside
  exact parted next (by simp [inside])

end TagTable

namespace Node

/-! ## One evaluation -/

/-- The insertion that the symbol of a settled node asks for, if any. -/
def insertion? (context : Location) (node : Node) : Option TagTable.Insertion :=
  match node.operators.symbol, node.value with
  | some symbol, some value =>
    match tagPath context symbol with
    | .ok path => some ⟨path, value⟩
    | .error _ => none
  | _, _ => none

/-- The path of a tag is the canonical text of a location that a path names. -/
theorem exists_text_of_tagPath
    {context : Location} {symbol : SymbolOperator} {path : String}
    (tagged : tagPath context symbol = .ok path) :
    ∃ location : Location,
      location.isBounded = true ∧ path = location.text := by
  cases symbol with
  | reserved => cases tagged
  | tag written =>
      unfold tagPath Path.canonical at tagged
      dsimp only at tagged
      cases located :
          Path.locate ((written.map Path.qualified).getD context.text) with
      | error error =>
          rw [located] at tagged
          cases tagged
      | ok location =>
          rw [located] at tagged
          refine ⟨location, Path.isBounded_of_locate located, ?_⟩
          exact (Except.ok.inj tagged).symm

theorem exists_text_of_insertion?
    {context : Location} {node : Node} {insertion : TagTable.Insertion}
    (asked : node.insertion? context = some insertion) :
    ∃ location : Location,
      location.isBounded = true ∧ insertion.path = location.text := by
  rw [insertion?] at asked
  split at asked
  · next symbol value _ _ =>
      cases tagged : tagPath context symbol with
      | error error =>
          rw [tagged] at asked
          cases asked
      | ok path =>
          rw [tagged] at asked
          rcases Option.some.inj asked with rfl
          exact exists_text_of_tagPath tagged
  · cases asked

/-- The stages in front of the symbol only read the table. -/
theorem run_evaluate
    (environment : Environment) (context : Location) (node : Node)
    (table : TagTable) :
    ((node.evaluate environment context).run.run table).2 =
      match node.settled environment table with
      | .error _ => table
      | .ok settled =>
        ((settled.record context Mark.symbol).run.run table).2 := by
  rw [run_evaluate_eq]
  cases node.settled environment table with
  | error error => rfl
  | ok settled =>
      dsimp only
      rcases (settled.record context Mark.symbol).run.run table with
        ⟨outcome, behind⟩
      cases outcome with
      | error error => rfl
      | ok recorded => rfl

/-- The symbol attempts one insertion, or none. -/
theorem run_record
    (context : Location) (mark : Mark) (node : Node) (table : TagTable) :
    ((node.record context mark).run.run table).2 =
      match node.insertion? context with
      | none => table
      | some insertion => table.attempt insertion := by
  rw [run_record_eq]
  cases declared : node.operators.symbol with
  | none => simp only [insertion?, declared]
  | some symbol =>
      cases held : node.value with
      | none =>
          simp only [insertion?, declared, held, recordIn]
          cases tagPath context symbol with
          | error error => rfl
          | ok path => rfl
      | some value =>
          simp only [insertion?, declared, held, recordIn]
          cases tagPath context symbol with
          | error error => rfl
          | ok path =>
              dsimp only
              cases outcome : table.insert path value with
              | error error =>
                  have kept : table.attempt ⟨path, value⟩ = table :=
                    TagTable.attempt_of_error outcome
                  rw [kept]
              | ok inserted =>
                  rcases inserted with ⟨previous, next⟩
                  have written : table.attempt ⟨path, value⟩ = next :=
                    TagTable.attempt_of_insert outcome
                  rw [written]

end Node

/-! ## The visits of a pass -/

/-- A node that is evaluated, with its place among the templates. -/
structure Visit where
  /-- The place. -/
  context : Location
  /-- The node. -/
  node : Node

namespace Visit

/-- A visit that tags what a path finds, under its place without a tag path. -/
def tagging (context : Location) (path : String) (tag : Option String) : Visit :=
  ⟨context, { path, operators := { symbol := some (.tag tag) } }⟩

/-- The table behind a visit, whether or not its evaluation fails. -/
def after (environment : Environment) (table : TagTable) (visit : Visit) :
    TagTable :=
  ((visit.node.evaluate environment visit.context).run.run table).2

/-- What a visit records: the insertion its symbol asks for, unless that fails. -/
def recording? (environment : Environment) (table : TagTable) (visit : Visit) :
    Option Recording :=
  match visit.node.settled environment table with
  | .error _ => none
  | .ok settled =>
    (settled.insertion? visit.context).bind fun insertion =>
      (table.written? insertion).map fun location =>
        ⟨location, insertion.value⟩

theorem after_eq
    (environment : Environment) (table : TagTable) (visit : Visit) :
    visit.after environment table =
      table.recordAll (visit.recording? environment table).toList := by
  rw [after, Node.run_evaluate, recording?]
  cases visit.node.settled environment table with
  | error error => rfl
  | ok settled =>
      dsimp only
      rw [Node.run_record]
      cases settled.insertion? visit.context with
      | none => rfl
      | some insertion =>
          dsimp only [Option.bind_some]
          rw [TagTable.attempt_eq]
          cases table.written? insertion with
          | none => rfl
          | some location => rfl

/-- A recorded location is one that its own canonical text names. -/
theorem isFaithful_of_recording?
    {environment : Environment} {table : TagTable} {visit : Visit}
    {recording : Recording}
    (recorded : visit.recording? environment table = some recording) :
    recording.location.isFaithful = true := by
  rw [recording?] at recorded
  cases outcome : visit.node.settled environment table with
  | error error =>
      rw [outcome] at recorded
      cases recorded
  | ok settled =>
      rw [outcome] at recorded
      rcases Option.bind_eq_some_iff.mp recorded with
        ⟨insertion, asked, written⟩
      rcases Option.map_eq_some_iff.mp written with ⟨location, found, rfl⟩
      rcases Node.exists_text_of_insertion? asked with
        ⟨source, bounded, text⟩
      have located := TagTable.locate_of_written? found
      rw [text, Path.locate_text bounded] at located
      rw [← Except.ok.inj located]
      exact Location.isFaithful_reread bounded

end Visit

/-- The table behind visits, made one after the other. -/
def Pass.after (environment : Environment) (table : TagTable) :
    List Visit → TagTable
  | [] => table
  | visit :: rest => after environment (visit.after environment table) rest

/-- What visits record, in order. -/
def Pass.recordings (environment : Environment) (table : TagTable) :
    List Visit → List Recording
  | [] => []
  | visit :: rest =>
    (visit.recording? environment table).toList ++
      recordings environment (visit.after environment table) rest

namespace Pass

theorem after_eq
    (environment : Environment) (table : TagTable) (visits : List Visit) :
    after environment table visits =
      table.recordAll (recordings environment table visits) := by
  induction visits generalizing table with
  | nil => rfl
  | cons visit rest ih =>
      rw [after, recordings, TagTable.recordAll_append, ih, visit.after_eq]

theorem after_append
    (environment : Environment) (table : TagTable)
    (earlier later : List Visit) :
    after environment table (earlier ++ later) =
      after environment (after environment table earlier) later := by
  induction earlier generalizing table with
  | nil => rfl
  | cons visit earlier ih => exact ih _

theorem reflects_after
    {table : TagTable} {locations : List Location}
    (reflects : table.Reflects locations)
    (environment : Environment) (visits : List Visit) :
    (after environment table visits).Reflects
      (locations ++
        (recordings environment table visits).map Recording.location) := by
  rw [after_eq]
  exact reflects.recordAll _

/-- Behind a visit that records, the value is at its location. -/
theorem after_concat
    {environment : Environment} {table : TagTable} {earlier : List Visit}
    {visit : Visit} {recording : Recording}
    (recorded :
      visit.recording? environment (after environment table earlier) =
        some recording) :
    after environment table (earlier ++ [visit]) =
      (after environment table earlier).recordAt recording.location
        recording.value := by
  rw [after_append, after, after, visit.after_eq, recorded]
  rfl

/--
What a visit records lasts while no later visit of the pass records at the same
location, above it or below it, with one exception.  When a later recording
needs an array where the location needs an object, or the other way round, the
value is gone, and at most a null comes to stand in its place.
-/
theorem recording_lasts_unless_clashing
    (environment : Environment)
    (insertions : List TagTable.Insertion)
    (earlier later : List Visit) (visit : Visit)
    (recording : Recording)
    (recorded :
      visit.recording? environment
          (after environment (.ofInsertions insertions) earlier) =
        some recording)
    (others : List Recording)
    (recordedLater :
      recordings environment
          (after environment (.ofInsertions insertions) (earlier ++ [visit]))
          later =
        others)
    (apart :
      ∀ other ∈ others,
        ¬other.location <+: recording.location ∧
          ¬recording.location <+: other.location)
    (table : TagTable)
    (behind :
      after environment (.ofInsertions insertions)
          (earlier ++ visit :: later) =
        table) :
    ((∀ other ∈ others,
        ¬recording.location.Clashing other.location) →
      table.document.at? recording.location = some recording.value ∧
        table.get? recording.location.text = some recording.value ∧
        (recording.location.text, recording.value) ∈ table.entries) ∧
    ((∃ other ∈ others, recording.location.Clashing other.location) →
      table.Vacant recording.location ∧
        ∀ value, (recording.location.text, value) ∈ table.entries →
          value = .null) := by
  have parted :
      ∀ other ∈ others,
        recording.location.Beside other.location ∨
          recording.location.Clashing other.location := by
    intro other member
    rcases apart other member with ⟨notAbove, notBelow⟩
    rcases recording.location.prefix_or_part other.location with
      (below | above) | parts
    · exact absurd below notBelow
    · exact absurd above notAbove
    · exact parts
  have reflects :=
    (reflects_after (TagTable.reflects_ofInsertions insertions) environment
      earlier).recordAt recording.location recording.value
  rw [after_concat recorded] at recordedLater
  have shape : earlier ++ visit :: later = (earlier ++ [visit]) ++ later := by
    simp
  rw [shape, after_append, after_concat recorded, after_eq, recordedLater]
    at behind
  have readings :=
    (reflects.recordAll others).readings_of_isFaithful (by simp)
      (Visit.isFaithful_of_recording? recorded)
  rw [behind] at readings
  rcases readings with ⟨got, listed⟩
  constructor
  · intro unclashing
    have present :
        table.document.at? recording.location = some recording.value := by
      rw [← behind]
      apply TagTable.at?_recordAll_of_beside
      · simp
      · intro other member
        exact (parted other member).resolve_right (unclashing other member)
    exact ⟨present, got.trans present, (listed recording.value).mpr present⟩
  · intro clashing
    have vacant : table.Vacant recording.location := by
      rw [← behind]
      exact TagTable.vacant_recordAll_of_clashing _ parted clashing
    refine ⟨vacant, ?_⟩
    intro value member
    have present := (listed value).mp member
    rcases vacant with gone | filled
    · rw [gone] at present
      cases present
    · rw [filled] at present
      exact (Option.some.inj present).symm

/-- A tag lasts beside the tag of another node in the same object. -/
theorem recording_lasts_beside :
    (after
        { sources := .ofList [("origin", .bool true)] }
        (.ofInsertions [])
        [.tagging [.index 0] "a" (some "user.name"),
          .tagging [.member "user", .member "age"] "b" none]).get?
        "$.user.name" =
      some (.bool true) := by
  have unclashing :
      ∀ other ∈ [Recording.mk [.member "user", .member "age"] (.bool true)],
        ¬Location.Clashing [.member "user", .member "name"]
          other.location := by
    decide
  have text :
      Location.text [.member "user", .member "name"] = "$.user.name" := rfl
  have lasts :=
    recording_lasts_unless_clashing
      { sources := .ofList [("origin", .bool true)] }
      [] []
      [.tagging [.member "user", .member "age"] "b" none]
      (.tagging [.index 0] "a" (some "user.name"))
      ⟨[.member "user", .member "name"], .bool true⟩ rfl
      [⟨[.member "user", .member "age"], .bool true⟩]
      rfl (by decide) _ rfl
  rw [← text]
  exact (lasts.1 unclashing).2.1

/-- A tag by name is gone behind a tag by the index of another node. -/
theorem recording_lost_by_clashing :
    recordings
        { sources := .ofList [("origin", .bool true)] }
        {}
        [.tagging [.index 0] "a" (some "user"), .tagging [.index 1] "b" none] =
      [⟨[.member "user"], .bool true⟩, ⟨[.index 1], .bool true⟩] ∧
    ¬[Segment.index 1] <+: [.member "user"] ∧
    ¬[Segment.member "user"] <+: [.index 1] ∧
    (after
        { sources := .ofList [("origin", .bool true)] }
        {}
        [.tagging [.index 0] "a" (some "user"),
          .tagging [.index 1] "b" none]).entries =
      [("$[1]", .bool true)] :=
  ⟨rfl, by decide, by decide, rfl⟩

end Pass

/-! ## The pass of the command line -/

/-- Nodes with their places: an index each, counted from a first one. -/
def Visit.numbered (base : Location) (index : Nat) : List Node → List Visit
  | [] => []
  | node :: rest =>
    ⟨base.child (.index index), node⟩ :: numbered base (index + 1) rest

/-- The tags of a program run that succeeds are those of a pass over its nodes. -/
theorem CommandLine.table_of_evaluateNodes
    {environment : Environment} {base : Location} {index : Nat}
    {table final : TagTable} {nodes : List Node} {values : List Value}
    (evaluated :
      evaluateNodes environment base index table nodes =
        .ok (values, final)) :
    final =
      Pass.after environment table (Visit.numbered base index nodes) := by
  induction nodes generalizing index table values with
  | nil =>
      rw [evaluateNodes] at evaluated
      cases evaluated
      rfl
  | cons node rest ih =>
      rw [Visit.numbered, Pass.after, Visit.after]
      rw [evaluateNodes] at evaluated
      rcases run :
          (node.evaluate environment (base.child (.index index))).run.run
            table with ⟨outcome, next⟩
      rw [run] at evaluated
      cases outcome with
      | error error => cases evaluated
      | ok value =>
          dsimp only at evaluated ⊢
          cases later : evaluateNodes environment base (index + 1) next rest with
          | error failure =>
              rw [later] at evaluated
              cases evaluated
          | ok read =>
              rw [later] at evaluated
              rcases Prod.mk.inj (Except.ok.inj evaluated) with ⟨_, rfl⟩
              exact ih later

end Stencil
