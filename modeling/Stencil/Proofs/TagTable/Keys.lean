import Stencil.Evaluation.Lookup
import Stencil.Proofs.Query.Canonical
import Stencil.Proofs.TagTable.History

/-!
# The keys of a tag table

The key of a record is the canonical text of its location, and it is used as a
path again in two ways.  As a singular path it names the location of its record
exactly when that location is faithful.  As a query it is looked up in the tags,
and the value recorded is found exactly when the location is queryable.
-/

namespace Stencil

/-! ## Members with different names -/

namespace Members

theorem put_of_new
    {Entry : Type}
    {name : String}
    {members : Members Entry}
    (new : ∀ member ∈ members, member.1 ≠ name)
    (entry : Entry) :
    put name entry members = members ++ [(name, entry)] := by
  induction members with
  | nil => rfl
  | cons first rest ih =>
      rcases first with ⟨other, held⟩
      have distinct : other ≠ name := new (other, held) List.mem_cons_self
      have later : ∀ member ∈ rest, member.1 ≠ name :=
        fun member inside => new member (List.mem_cons_of_mem _ inside)
      rw [put, if_neg distinct, ih later]
      rfl

theorem foldl_put_of_distinct
    {Entry : Type}
    (members written : List (String × Entry))
    (distinct :
      (members ++ written).Pairwise fun left right => left.1 ≠ right.1) :
    written.foldl (fun members next => put next.1 next.2 members) members =
      members ++ written := by
  induction written generalizing members with
  | nil => simp
  | cons next written ih =>
      rcases next with ⟨name, entry⟩
      have new : ∀ member ∈ members, member.1 ≠ name := by
        intro member inside
        exact (List.pairwise_append.mp distinct).2.2 member inside
          (name, entry) List.mem_cons_self
      have shifted :
          (members ++ [(name, entry)]) ++ written =
            members ++ (name, entry) :: written := by
        simp
      rw [List.foldl_cons, put_of_new new, ih, shifted]
      rwa [shifted]

/-- Members with different names are gathered as they are. -/
theorem gather_of_distinct
    {Entry : Type}
    {written : List (String × Entry)}
    (distinct : written.Pairwise fun left right => left.1 ≠ right.1) :
    gather written = written :=
  foldl_put_of_distinct [] written distinct

end Members

namespace TagTable

/-! ## Listings -/

theorem nodup_eraseDups (locations : List Location) :
    locations.eraseDups.Nodup := by
  induction length : locations.length using Nat.strongRecOn
    generalizing locations with
  | ind size ih =>
      cases locations with
      | nil => exact .nil
      | cons location rest =>
          have shorter := List.length_filter_le (fun other => !other == location) rest
          rw [List.eraseDups_cons, List.nodup_cons]
          constructor
          · simp
          · apply ih _ _ _ rfl
            simp only [List.length_cons] at length
            omega

theorem Reflects.entries_distinct
    {table : TagTable} {locations : List Location}
    (reflects : table.Reflects locations) :
    table.entries.Pairwise fun left right => left.1 ≠ right.1 := by
  have keys :
      table.records.Pairwise fun left right => left.key ≠ right.key := by
    rw [reflects.records_eq, List.pairwise_map]
    apply (nodup_eraseDups locations).imp
    intro left right distinct
    rw [TagRecord.of, TagRecord.of, ne_eq, Location.text_inj]
    exact distinct
  apply keys.filterMap
  intro left right distinct leftEntry leftListed rightEntry rightListed
  rcases Option.map_eq_some_iff.mp leftListed with ⟨_, _, rfl⟩
  rcases Option.map_eq_some_iff.mp rightListed with ⟨_, _, rfl⟩
  exact distinct

/-- The object of the recorded values lists them as the table does. -/
theorem Reflects.toValue_eq
    {table : TagTable} {locations : List Location}
    (reflects : table.Reflects locations) :
    table.toValue = .object table.entries := by
  rw [toValue, Value.ofMembers,
    Members.gather_of_distinct reflects.entries_distinct]

/-! ## Keys as singular paths -/

/--
The canonical text of a location names that location, and is its own canonical
text, exactly when the location is faithful.  A table keeps the location under
this text as its key, and if the location is faithful, the value recorded there
is read back at the key.
-/
theorem canonical_roundTrip_iff_isFaithful (location : Location) :
    (Path.locate location.text = .ok location ↔
      location.isFaithful = true) ∧
    (∀ path, Path.locate path = .ok location →
      Path.canonical path = .ok location.text ∧
        (Path.canonical location.text = .ok location.text ↔
          location.isFaithful = true)) ∧
    (∀ insertions, location ∈ locationsOf insertions →
      (ofInsertions insertions).record? location.text =
          some (.of location) ∧
        (location.isFaithful = true →
          (ofInsertions insertions).get? location.text =
            (ofInsertions insertions).document.at? location)) := by
  refine ⟨Path.locate_text_eq_self_iff location, ?_, ?_⟩
  · intro path located
    have bounded := Path.isBounded_of_locate located
    constructor
    · rw [Path.canonical, located]
      rfl
    · exact Path.canonical_text_eq_self_iff bounded
  · intro insertions written
    have reflects := reflects_ofInsertions insertions
    constructor
    · rw [reflects.record?_text, if_pos written]
    · intro faithful
      exact (reflects.readings_of_isFaithful written faithful).1

/-- A backspace in a name comes back as the letter of its escape. -/
theorem backspace_not_roundTrip :
    Path.locate (Location.text [.member "\x08"]) = .ok [.member "b"] ∧
      ¬∀ location : Location, location.isBounded = true →
        Path.locate location.text = .ok location := by
  have read :
      Path.locate (Location.text [.member "\x08"]) =
        .ok (Location.reread [.member "\x08"]) :=
    Path.locate_text rfl
  constructor
  · exact read
  · intro roundTrip
    have same := roundTrip [.member "\x08"] rfl
    rw [read] at same
    exact absurd (Except.ok.inj same) (by decide)

/-! ## Keys as queries -/

theorem qualified_text (location : Location) :
    Path.qualified location.text = location.text := by
  rw [Path.qualified, Location.text, String.toList_ofList, Location.chars,
    Path.qualify]

/-- A value that is no container holds only itself. -/
theorem at?_of_not_isContainer
    {document found : Value} {location : Location}
    (scalar : document.isContainer = false)
    (present : document.at? location = some found) :
    location = [] ∧ found = document := by
  cases location with
  | nil => exact ⟨rfl, (Option.some.inj present).symm⟩
  | cons segment rest =>
      have childless : document.child? segment = none := by
        cases document with
        | array items => cases scalar
        | object members => cases scalar
        | _ => cases segment <;> rfl
      rw [Value.at?_cons, childless] at present
      cases present

/-- What a node without a query operator keeps of its matches. -/
theorem collapse_matches
    {node : Node}
    (query : node.operators.query = none)
    (found : List Value) (first second : Mark) :
    ((node.withValue (some (.array found)) first).collapse second).value =
      found.getLast? := by
  simp [Node.collapse, Node.withValue, Node.collapsed, query]

/-- A value that is no container is found at every path. -/
theorem follow_of_not_isContainer
    {document : Value} {node : Node}
    (scalar : document.isContainer = false)
    (query : node.operators.query = none)
    (environment : Environment) (first second : Mark) :
    (node.follow environment (some document) first).map
        (fun matched => (matched.collapse second).value.getD .null) =
      .ok document := by
  cases document with
  | null =>
      rw [Node.follow, Except.map, collapse_matches query]
      rfl
  | array items => cases scalar
  | object members => cases scalar
  | _ =>
      rw [Node.follow, if_neg (by simp [Value.isContainer]), Except.map,
        collapse_matches query]
      · rfl
      · intro absurdity
        cases absurdity

/-- In a container a canonical text finds what its location leads to, if it is a query. -/
theorem follow_of_isContainer
    {environment : Environment} {document found : Value}
    {location : Location} {node : Node}
    (picks : environment.select = Path.select)
    (container : document.isContainer = true)
    (present : document.at? location = some found)
    (path : node.path = location.text)
    (query : node.operators.query = none)
    (first second : Mark) :
    (node.follow environment (some document) first).map
        (fun matched => (matched.collapse second).value.getD .null) =
      if location.isQueryable then .ok found
      else .error (.path (.malformed location.text)) := by
  rw [Node.follow, if_pos container, picks, path, qualified_text,
    Path.select_text, present]
  · cases location.isQueryable with
    | true =>
        simp only [if_true, Except.map, collapse_matches query]
        rfl
    | false => rfl
  · rintro rfl
    cases container

/-- A canonical text is looked up in the tags and finds what they hold at its location. -/
theorem lookup_text
    {environment : Environment} {table : TagTable} {found : Value}
    {location : Location} {node : Node}
    (picks : environment.select = Path.select)
    (present : table.document.at? location = some found)
    (path : node.path = location.text)
    (query : node.operators.query = none) :
    (node.lookup environment table environment.settings.tagSource).map
        (fun matched => matched.getD .null) =
      if location.isQueryable then .ok found
      else .error (.path (.malformed location.text)) := by
  have composed (outcome : Except EvaluationError Node) :
      (outcome.map fun matched => (matched.collapse Mark.constraint).value).map
          (fun matched => matched.getD .null) =
        outcome.map fun matched =>
          (matched.collapse Mark.constraint).value.getD .null := by
    cases outcome with
    | error error => rfl
    | ok matched => rfl
  rw [Node.lookup, Node.sourceNamed, if_pos rfl, composed]
  cases container : table.document.isContainer with
  | true =>
      exact follow_of_isContainer picks container present path query _ _
  | false =>
      rcases at?_of_not_isContainer container present with ⟨rfl, rfl⟩
      exact follow_of_not_isContainer container query environment _ _

/--
A key of a table is looked up in the tags with the value recorded under it when
its location is queryable, and is malformed otherwise.  A blank name of the tags
stands for no source at all.
-/
theorem constrain_entry
    (environment : Environment)
    (picks : environment.select = Path.select)
    (insertions : List Insertion)
    (key : String) (value : Value)
    (listed : (key, value) ∈ (ofInsertions insertions).entries)
    (node : Node)
    (path : node.path = key)
    (query : node.operators.query = none)
    (constraint :
      node.operators.constraint =
        some (.alternate environment.settings.tagSource none))
    (mark : Mark) :
    (ofInsertions insertions).toValue =
        .object (ofInsertions insertions).entries ∧
      ∃ location ∈ locationsOf insertions, location.text = key ∧
        node.constrain environment (ofInsertions insertions) mark =
          if environment.settings.tagSource = "" then
            .ok (node.withValue (some .null) mark)
          else if location.isQueryable then
            .ok (node.withValue (some value) mark)
          else .error (.path (.malformed key)) := by
  have reflects := reflects_ofInsertions insertions
  refine ⟨reflects.toValue_eq, ?_⟩
  rcases (reflects.mem_entries_iff key value).mp listed with
    ⟨location, written, rfl, present⟩
  refine ⟨location, written, rfl, ?_⟩
  have found := lookup_text picks present path query
  by_cases blank : environment.settings.tagSource = ""
  · rw [Node.constrain, constraint, if_pos blank]
    simp only [Node.supplied, if_pos blank, Except.map]
  · have supplied :
        node.constrain environment (ofInsertions insertions) mark =
          ((node.lookup environment (ofInsertions insertions)
              environment.settings.tagSource).map
            fun matched => matched.getD .null).map
              fun value => node.withValue (some value) mark := by
      rw [Node.constrain, constraint]
      simp only [Node.supplied, if_neg blank]
      cases node.lookup environment (ofInsertions insertions)
          environment.settings.tagSource with
      | error error => rfl
      | ok matched => rfl
    rw [supplied, found, if_neg blank]
    cases location.isQueryable with
    | true => rfl
    | false => rfl

/-- Names behind dots make a key under which the tag is found again. -/
theorem dottedKey_found :
    Node.constrain {} (ofInsertions [⟨"a.b", .bool true⟩]) Mark.constraint
        { path := "$.a.b",
          operators := { constraint := some (.alternate "tags" none) } } =
      .ok
        { path := "$.a.b",
          operators := { constraint := some (.alternate "tags" none) },
          value := some (.bool true),
          mark := Mark.constraint } := by
  have listed :
      ("$.a.b", .bool true) ∈ (ofInsertions [⟨"a.b", .bool true⟩]).entries :=
    List.mem_singleton.mpr rfl
  rcases constrain_entry {} rfl _ _ _ listed
      { path := "$.a.b",
        operators := { constraint := some (.alternate "tags" none) } }
      rfl rfl rfl Mark.constraint with ⟨_, location, _, text, found⟩
  have named : location = [.member "a", .member "b"] :=
    Location.text_inj.mp text
  rw [found, named]
  rfl

/-- A dollar sign in a name behind a dot makes a key that is no query. -/
theorem dollarKey_malformed :
    (ofInsertions [⟨"a$b", .bool true⟩]).entries =
        [("$.a$b", .bool true)] ∧
      Node.constrain {} (ofInsertions [⟨"a$b", .bool true⟩])
          Mark.constraint
          { path := "$.a$b",
            operators := { constraint := some (.alternate "tags" none) } } =
        .error (.path (.malformed "$.a$b")) :=
  ⟨rfl, rfl⟩

end TagTable

end Stencil
