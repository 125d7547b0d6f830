import Stencil.Proofs.Path.Rereading
import Stencil.Proofs.TagTable.Writing
import Stencil.TagTable

/-!
# What a tag table remembers

A table that has come about by writes reflects the locations written: its
records are those locations in the order of their first writes, each under its
canonical text, and the location written last is still there.  One write keeps
this up, hence so does every sequence of insertions, some of which may fail.
A failed insertion leaves no trace.
-/

namespace Stencil

/-- The record of a location, under its canonical text. -/
def TagRecord.of (location : Location) : TagRecord :=
  ⟨location.text, location⟩

namespace TagTable

/-! ## One write -/

/-- The table with a value written at a location and recorded under its text. -/
def recordAt (table : TagTable) (location : Location) (value : Value) : TagTable :=
  table.write (.of location) value

@[simp]
theorem document_recordAt
    (table : TagTable) (location : Location) (value : Value) :
    (table.recordAt location value).document =
      table.document.put location value :=
  rfl

/-- The records are the locations written, and the last one written is still there. -/
structure Reflects (table : TagTable) (locations : List Location) : Prop where
  records_eq : table.records = locations.eraseDups.map TagRecord.of
  latest_present :
    ∀ latest ∈ locations.getLast?, (table.document.at? latest).isSome = true

theorem reflects_empty : Reflects {} [] where
  records_eq := rfl
  latest_present := by simp

theorem find?_text
    (locations : List Location) (location : Location) :
    (locations.find? fun other => other.text == location.text) =
      if location ∈ locations then some location else none := by
  induction locations with
  | nil => rfl
  | cons other locations ih =>
      rw [List.find?_cons]
      by_cases same : other = location
      · simp [same]
      · have different : (other.text == location.text) = false := by
          simpa [Location.text_inj] using same
        rw [different, ih]
        simp [Ne.symm same]

theorem eraseDups_concat (locations : List Location) (location : Location) :
    (locations ++ [location]).eraseDups =
      if location ∈ locations then locations.eraseDups
      else locations.eraseDups ++ [location] := by
  rw [List.eraseDups_append]
  by_cases old : location ∈ locations
  · simp [List.removeAll, old]
  · simp [List.removeAll, old, List.eraseDups_cons]

namespace Reflects

variable {table : TagTable} {locations : List Location}

/-- A table records a location exactly when it was written, and under its own text. -/
theorem record?_text
    (reflects : table.Reflects locations)
    (location : Location) :
    table.record? location.text =
      if location ∈ locations then some (.of location) else none := by
  rw [record?, reflects.records_eq, List.find?_map]
  have found := find?_text locations.eraseDups location
  simp only [List.mem_eraseDups] at found
  simp only [Function.comp_def, TagRecord.of, found]
  split
  · rfl
  · rfl

theorem recordAt
    (reflects : table.Reflects locations)
    (location : Location) (value : Value) :
    (table.recordAt location value).Reflects (locations ++ [location]) where
  records_eq := by
    have known := reflects.record?_text location
    rw [eraseDups_concat]
    by_cases old : location ∈ locations
    · rw [if_pos old] at known ⊢
      simp [TagTable.recordAt, write, TagRecord.of, known, reflects.records_eq]
    · rw [if_neg old] at known ⊢
      simp [TagTable.recordAt, write, TagRecord.of, known, reflects.records_eq]
  latest_present := by
    intro latest member
    rw [List.getLast?_concat] at member
    rcases Option.some.inj member with rfl
    simp

/-! ## Readings of the table -/

/-- A path reads what the document holds at its location, if that location was written. -/
theorem get?_of_locate
    (reflects : table.Reflects locations)
    {path : String} {location : Location}
    (located : Path.locate path = .ok location) :
    table.get? path =
      if location ∈ locations then table.document.at? location else none := by
  unfold get? Path.canonical
  rw [located, Except.map]
  simp only [reflects.record?_text location]
  split
  · rfl
  · rfl

theorem mem_entries_iff
    (reflects : table.Reflects locations)
    (key : String) (value : Value) :
    (key, value) ∈ table.entries ↔
      ∃ location ∈ locations,
        location.text = key ∧ table.document.at? location = some value := by
  rw [entries, reflects.records_eq, List.mem_filterMap]
  constructor
  · rintro ⟨record, member, listed⟩
    rcases List.mem_map.mp member with ⟨location, written, rfl⟩
    rcases Option.map_eq_some_iff.mp listed with ⟨found, present, equal⟩
    rcases Prod.mk.inj equal with ⟨rfl, rfl⟩
    exact ⟨location, List.mem_eraseDups.mp written, rfl, present⟩
  · rintro ⟨location, written, rfl, present⟩
    refine ⟨.of location, ?_, ?_⟩
    · exact List.mem_map.mpr ⟨location, List.mem_eraseDups.mpr written, rfl⟩
    · exact Option.map_eq_some_iff.mpr ⟨value, present, rfl⟩

/-- A recorded location is read at its canonical text, and listed under it. -/
theorem readings_of_isFaithful
    (reflects : table.Reflects locations)
    {location : Location}
    (written : location ∈ locations)
    (faithful : location.isFaithful = true) :
    table.get? location.text = table.document.at? location ∧
      ∀ value, (location.text, value) ∈ table.entries ↔
        table.document.at? location = some value := by
  constructor
  · have located := (Path.locate_text_eq_self_iff location).mpr faithful
    rw [reflects.get?_of_locate located, if_pos written]
  · intro value
    rw [reflects.mem_entries_iff]
    constructor
    · rintro ⟨other, _, same, present⟩
      rwa [← Location.text_inj.mp same]
    · intro present
      exact ⟨location, written, rfl, present⟩

/-- A table is empty exactly when nothing was ever written. -/
theorem isEmpty_iff (reflects : table.Reflects locations) :
    table.isEmpty = true ↔ locations = [] := by
  rw [isEmpty, size, beq_iff_eq, List.length_eq_zero_iff]
  constructor
  · intro nothing
    rcases List.eq_nil_or_concat locations with empty | ⟨earlier, latest, rfl⟩
    · exact empty
    · have present := reflects.latest_present latest (by simp)
      rcases Option.isSome_iff_exists.mp present with ⟨value, found⟩
      have listed : (latest.text, value) ∈ table.entries :=
        (reflects.mem_entries_iff latest.text value).mpr
          ⟨latest, by simp, rfl, found⟩
      rw [nothing] at listed
      cases listed
  · intro nothing
    rw [entries, reflects.records_eq, nothing]
    rfl

end Reflects

/-! ## One insertion -/

/-- A call that records a value at a path. -/
structure Insertion where
  /-- The path, as it is written. -/
  path : String
  /-- The value. -/
  value : Value

/-- The table behind an insertion, which is the same table when the insertion fails. -/
def attempt (table : TagTable) (insertion : Insertion) : TagTable :=
  match table.insert insertion.path insertion.value with
  | .ok (_, next) => next
  | .error _ => table

/-- The location that an insertion writes, unless it fails. -/
def written? (table : TagTable) (insertion : Insertion) : Option Location :=
  match table.insert insertion.path insertion.value with
  | .ok _ => (Path.locate insertion.path).toOption
  | .error _ => none

/-- An insertion that succeeds writes its value at the location of its path. -/
theorem insert_eq_ok_iff
    (table : TagTable) (path : String) (value : Value)
    (previous : Option Value) (next : TagTable) :
    table.insert path value = .ok (previous, next) ↔
      ∃ location, Path.locate path = .ok location ∧
        Value.paddingFault? (some table.document) location = none ∧
        previous = table.document.at? location ∧
        next = table.recordAt location value := by
  unfold insert
  cases located : Path.locate path with
  | error error => simp
  | ok location =>
      cases fault : Value.paddingFault? (some table.document) location with
      | some far => simp [fault]
      | none => simp [fault, recordAt, TagRecord.of, eq_comm]

theorem attempt_of_insert
    {table next : TagTable} {insertion : Insertion} {previous : Option Value}
    (inserted :
      table.insert insertion.path insertion.value = .ok (previous, next)) :
    table.attempt insertion = next := by
  unfold attempt
  rewrite [inserted]
  rfl

theorem attempt_of_error
    {table : TagTable} {insertion : Insertion} {error : PathError}
    (failed : table.insert insertion.path insertion.value = .error error) :
    table.attempt insertion = table := by
  unfold attempt
  rewrite [failed]
  rfl

theorem written?_of_error
    {table : TagTable} {insertion : Insertion} {error : PathError}
    (failed : table.insert insertion.path insertion.value = .error error) :
    table.written? insertion = none := by
  unfold written?
  rewrite [failed]
  rfl

theorem written?_of_insert
    {table next : TagTable} {insertion : Insertion} {previous : Option Value}
    {location : Location}
    (inserted :
      table.insert insertion.path insertion.value = .ok (previous, next))
    (located : Path.locate insertion.path = .ok location) :
    table.written? insertion = some location := by
  unfold written?
  rewrite [inserted, located]
  rfl

/-- An insertion writes its value at its location, or else leaves the table alone. -/
theorem attempt_eq (table : TagTable) (insertion : Insertion) :
    table.attempt insertion =
      match table.written? insertion with
      | none => table
      | some location => table.recordAt location insertion.value := by
  cases outcome : table.insert insertion.path insertion.value with
  | error error =>
      rw [attempt_of_error outcome, written?_of_error outcome]
  | ok inserted =>
      rcases inserted with ⟨previous, next⟩
      rcases (table.insert_eq_ok_iff _ _ _ _).mp outcome with
        ⟨location, located, _, _, rfl⟩
      rw [attempt_of_insert outcome, written?_of_insert outcome located]

/-- The location written is the one that the path names. -/
theorem locate_of_written?
    {table : TagTable} {insertion : Insertion} {location : Location}
    (written : table.written? insertion = some location) :
    Path.locate insertion.path = .ok location := by
  cases outcome : table.insert insertion.path insertion.value with
  | error error =>
      rw [written?_of_error outcome] at written
      cases written
  | ok inserted =>
      rcases inserted with ⟨previous, next⟩
      rcases (table.insert_eq_ok_iff _ _ _ _).mp outcome with
        ⟨found, located, _⟩
      rw [written?_of_insert outcome located] at written
      rw [located, Option.some.inj written]

theorem Reflects.attempt
    {table : TagTable} {locations : List Location}
    (reflects : table.Reflects locations)
    (insertion : Insertion) :
    (table.attempt insertion).Reflects
      (locations ++ (table.written? insertion).toList) := by
  rw [attempt_eq]
  cases table.written? insertion with
  | none => simpa using reflects
  | some location => exact reflects.recordAt location insertion.value

/-! ## Sequences of insertions -/

/-- The table behind insertions, made one after the other. -/
def after (table : TagTable) (insertions : List Insertion) : TagTable :=
  insertions.foldl attempt table

/-- The locations that insertions write, in order; those that fail write none. -/
def written (table : TagTable) : List Insertion → List Location
  | [] => []
  | insertion :: rest =>
    (table.written? insertion).toList ++
      (table.attempt insertion).written rest

theorem after_append
    (table : TagTable) (earlier later : List Insertion) :
    table.after (earlier ++ later) = (table.after earlier).after later :=
  List.foldl_append

theorem written_append
    (table : TagTable) (earlier later : List Insertion) :
    table.written (earlier ++ later) =
      table.written earlier ++ (table.after earlier).written later := by
  induction earlier generalizing table with
  | nil => rfl
  | cons insertion earlier ih =>
      rw [List.cons_append, written, ih, written, List.append_assoc, after,
        after, List.foldl_cons]

theorem Reflects.after
    {table : TagTable} {locations : List Location}
    (reflects : table.Reflects locations)
    (insertions : List Insertion) :
    (table.after insertions).Reflects
      (locations ++ table.written insertions) := by
  induction insertions generalizing table locations with
  | nil => simpa [TagTable.after, written] using reflects
  | cons insertion rest ih =>
      rw [TagTable.after, List.foldl_cons, written, ← List.append_assoc]
      exact ih (reflects.attempt insertion)

/-- The table behind insertions into a fresh table. -/
def ofInsertions (insertions : List Insertion) : TagTable :=
  after {} insertions

/-- The locations that insertions into a fresh table write, in order. -/
def locationsOf (insertions : List Insertion) : List Location :=
  written {} insertions

theorem ofInsertions_append (earlier later : List Insertion) :
    ofInsertions (earlier ++ later) = (ofInsertions earlier).after later :=
  after_append {} earlier later

theorem locationsOf_append (earlier later : List Insertion) :
    locationsOf (earlier ++ later) =
      locationsOf earlier ++ (ofInsertions earlier).written later :=
  written_append {} earlier later

theorem reflects_ofInsertions (insertions : List Insertion) :
    (ofInsertions insertions).Reflects (locationsOf insertions) := by
  simpa [ofInsertions, locationsOf] using reflects_empty.after insertions

/--
A fresh table behind insertions keeps account of exactly those that succeeded.
Its records are their locations in the order of first writes, each under its
canonical text, and two of them share a record only if they are one location.
A failed insertion can be struck out.  A successful one is read back at every
spelling of its location, a location never written reads as nothing, and the
table is empty only while nothing has been written.
-/
theorem ofInsertions_accounts (insertions : List Insertion) :
    (ofInsertions insertions).records =
        (locationsOf insertions).eraseDups.map TagRecord.of ∧
    (∀ left ∈ locationsOf insertions, ∀ right ∈ locationsOf insertions,
      (ofInsertions insertions).record? left.text =
          (ofInsertions insertions).record? right.text ↔
        left = right) ∧
    (∀ failing error later,
      (ofInsertions insertions).insert failing.path failing.value =
          .error error →
        ofInsertions (insertions ++ failing :: later) =
            ofInsertions (insertions ++ later) ∧
          locationsOf (insertions ++ failing :: later) =
            locationsOf (insertions ++ later)) ∧
    (∀ path value previous next,
      (ofInsertions insertions).insert path value = .ok (previous, next) →
        ofInsertions (insertions ++ [⟨path, value⟩]) = next ∧
          (∃ location, Path.locate path = .ok location ∧
            locationsOf (insertions ++ [⟨path, value⟩]) =
              locationsOf insertions ++ [location]) ∧
          ∀ spelling, Path.locate spelling = Path.locate path →
            next.get? spelling = some value) ∧
    (∀ path,
      (∀ location ∈ locationsOf insertions,
        Path.locate path ≠ .ok location) →
        (ofInsertions insertions).get? path = none) ∧
    ((ofInsertions insertions).isEmpty = true ↔
      locationsOf insertions = []) := by
  have reflects := reflects_ofInsertions insertions
  refine ⟨reflects.records_eq, ?_, ?_, ?_, ?_, reflects.isEmpty_iff⟩
  · intro left leftWritten right rightWritten
    rw [reflects.record?_text left, reflects.record?_text right,
      if_pos leftWritten, if_pos rightWritten, Option.some.injEq]
    exact ⟨congrArg TagRecord.location, congrArg TagRecord.of⟩
  · intro failing error later failed
    constructor
    · rw [ofInsertions_append, ofInsertions_append, after, List.foldl_cons,
        attempt_of_error failed, after]
    · rw [locationsOf_append, locationsOf_append, written,
        attempt_of_error failed, written?_of_error failed]
      rfl
  · intro path value previous next inserted
    rcases (insert_eq_ok_iff _ _ _ _ _).mp inserted with
      ⟨location, located, _, _, rfl⟩
    refine ⟨?_, ⟨location, located, ?_⟩, ?_⟩
    · have step :
          (ofInsertions insertions).attempt ⟨path, value⟩ =
            (ofInsertions insertions).recordAt location value :=
        attempt_of_insert inserted
      rw [ofInsertions_append, after, List.foldl_cons, List.foldl_nil, step]
    · have wrote :
          (ofInsertions insertions).written? ⟨path, value⟩ = some location :=
        written?_of_insert inserted located
      rw [locationsOf_append, written, wrote]
      rfl
    · intro spelling same
      have recorded := reflects.recordAt location value
      rw [recorded.get?_of_locate (same.trans located), if_pos (by simp)]
      simp
  · intro path unwritten
    cases located : Path.locate path with
    | error error =>
        unfold get? Path.canonical
        rw [located, Except.map]
    | ok location =>
        rw [reflects.get?_of_locate located, if_neg]
        exact fun member => unwritten location member located

end TagTable

end Stencil
