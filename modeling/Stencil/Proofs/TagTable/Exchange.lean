import Stencil.Proofs.TagTable.Growth
import Stencil.Proofs.Value.Children

/-!
# Writes that change places

Two writes at locations that part at two names, or at two indices, leave the
same document in either order: where they part each leaves the child of the
other alone, and above they meet the same containers.  Only the order of the
members of an object may differ.  So two insertions leave tables that list the
same keys and read the same at every path.  Parted at two names, neither write
moves the end of an array that the other one meets, and then both orders are
carried out or neither is.
-/

namespace Stencil

namespace Value

/-! ## Children behind two writes -/

/-- What an index leads to behind a write at another one of the same array. -/
theorem child?_put_index
    {position other : Nat}
    (distinct : other ≠ position)
    (document : Value) (rest : Location) (value : Value) :
    (document.put (.index position :: rest) value).child? (.index other) =
      if other < document.itemsOrNone.length then
        document.child? (.index other)
      else if other < position then some .null
      else none := by
  rw [child?_put_index_of_ne distinct]
  by_cases inside : other < document.itemsOrNone.length
  · rw [if_pos (Or.inl inside), if_pos inside]
  · have absent : document.child? (.index other) = none := by
      rw [child?, item?_eq_getElem?]
      exact List.getElem?_eq_none (Nat.le_of_not_lt inside)
    rw [if_neg inside, absent]
    by_cases beyond : position < other
    · rw [if_pos (Or.inr beyond), if_neg (by omega)]
    · rw [if_neg (by omega), if_pos (by omega)]

theorem length_itemsOrNone_put
    (document : Value) (position : Nat) (rest : Location) (value : Value) :
    (document.put (.index position :: rest) value).itemsOrNone.length =
      max document.itemsOrNone.length (position + 1) := by
  rw [put, itemsOrNone_array, List.length_set, length_padTo]

/-- Another child does not depend on what is written, nor on where below. -/
theorem child?_put_of_ne
    {segment other : Segment}
    (distinct : other ≠ segment)
    (document : Value) (rest behind : Location) (value written : Value) :
    (document.put (segment :: rest) value).child? other =
      (document.put (segment :: behind) written).child? other := by
  rcases other.eq_or_siblings_or_clash segment with same | siblings | clash
  · exact absurd same distinct
  · rcases siblings.names_or_indices with
      ⟨otherName, name, rfl, rfl, names⟩ | ⟨otherPosition, position, rfl, rfl, positions⟩
    · rw [child?_put_member_of_ne names, child?_put_member_of_ne names]
    · rw [child?_put_index positions, child?_put_index positions]
  · rw [child?_put_of_clash clash, child?_put_of_clash clash]

/-- A second write below the same segment leaves the other children alone. -/
theorem child?_put_put_of_ne
    {segment other : Segment}
    (distinct : other ≠ segment)
    (document : Value) (rest behind : Location) (value written : Value) :
    ((document.put (segment :: rest) value).put (segment :: behind)
        written).child? other =
      (document.put (segment :: rest) value).child? other := by
  rcases other.eq_or_siblings_or_clash segment with same | siblings | clash
  · exact absurd same distinct
  · rcases siblings.names_or_indices with
      ⟨otherName, name, rfl, rfl, names⟩ | ⟨otherPosition, position, rfl, rfl, positions⟩
    · rw [child?_put_member_of_ne names]
    · rw [child?_put_index_of_ne positions, length_itemsOrNone_put,
        if_pos (by omega)]
  · rw [child?_put_of_clash clash, child?_put_of_clash clash]

/-- A write below a sibling leaves what another write finds or makes below its segment. -/
theorem getD_child?_put_of_siblings
    {segment other : Segment}
    (siblings : Segment.Siblings other segment)
    (document : Value) (rest : Location) (value : Value) :
    ((document.put (segment :: rest) value).child? other).getD .null =
      (document.child? other).getD .null := by
  rcases child?_put_of_siblings siblings document rest value with
    same | ⟨absent, gap⟩
  · rw [same]
  · rw [absent, gap]
    rfl

/-- A write below a sibling leaves what another write has made. -/
theorem child?_put_put_self_of_siblings
    {segment other : Segment}
    (siblings : Segment.Siblings segment other)
    (document : Value) (rest behind : Location) (value written : Value) :
    ((document.put (segment :: rest) value).put (other :: behind)
        written).child? segment =
      some (((document.child? segment).getD .null).put rest value) := by
  rw [← child?_put_self]
  rcases child?_put_of_siblings siblings
      (document.put (segment :: rest) value) behind written with
    same | ⟨absent, _⟩
  · exact same
  · rw [child?_put_self] at absent
    cases absent

/-- Writes below two siblings leave the same children in either order. -/
theorem child?_put_put_of_siblings
    {segment other : Segment}
    (siblings : Segment.Siblings segment other)
    (document : Value) (rest behind : Location) (value written : Value)
    (inner : Segment) :
    ((document.put (segment :: rest) value).put (other :: behind)
        written).child? inner =
      ((document.put (other :: behind) written).put (segment :: rest)
        value).child? inner := by
  by_cases first : inner = segment
  · rw [first, child?_put_put_self_of_siblings siblings, child?_put_self,
      getD_child?_put_of_siblings siblings]
  by_cases second : inner = other
  · rw [second, child?_put_put_self_of_siblings siblings.symm,
      child?_put_self, getD_child?_put_of_siblings siblings.symm]
  rcases siblings.names_or_indices with
    ⟨name, otherName, rfl, rfl, _⟩ | ⟨position, otherPosition, rfl, rfl, _⟩
  · cases inner with
    | index innerPosition => rfl
    | member innerName =>
        have names : innerName ≠ name := by simpa using first
        have others : innerName ≠ otherName := by simpa using second
        rw [child?_put_member_of_ne others, child?_put_member_of_ne names,
          child?_put_member_of_ne names, child?_put_member_of_ne others]
  · cases inner with
    | member innerName => rfl
    | index innerPosition =>
        have positions : innerPosition ≠ position := by simpa using first
        have others : innerPosition ≠ otherPosition := by simpa using second
        -- Either way the array ends behind the larger index.
        rw [child?_put_index others, child?_put_index positions,
          child?_put_index positions, child?_put_index others,
          length_itemsOrNone_put, length_itemsOrNone_put]
        split_ifs <;> first | rfl | omega

/-! ## Documents behind two writes -/

theorem distinct_put_put
    {document value written : Value}
    (documentDistinct : document.Distinct)
    (valueDistinct : value.Distinct) (writtenDistinct : written.Distinct)
    (left right : Location) :
    ((document.put left value).put right written).Distinct :=
  distinct_put (distinct_put documentDistinct valueDistinct left)
    writtenDistinct right

/-- Writes at two locations beside each other leave the same document in either order. -/
theorem same_put_put
    {left right : Location}
    (beside : Location.Beside left right)
    {document value written : Value}
    (documentDistinct : document.Distinct)
    (valueDistinct : value.Distinct) (writtenDistinct : written.Distinct) :
    same ((document.put left value).put right written)
        ((document.put right written).put left value) =
      true := by
  induction beside generalizing document with
  | @here segment other rest behind siblings =>
      have forthDistinct :=
        distinct_put_put documentDistinct valueDistinct writtenDistinct
          (segment :: rest) (other :: behind)
      have backDistinct :=
        distinct_put_put documentDistinct writtenDistinct valueDistinct
          (other :: behind) (segment :: rest)
      apply same_put_of_children siblings.symm.1 forthDistinct backDistinct
      intro inner
      rw [child?_put_put_of_siblings siblings]
      exact backDistinct.sameFound_child? inner
  | @later segment rest behind beside ih =>
      have kind : segment.sameKind segment = true := by
        cases segment <;> rfl
      have forthDistinct :=
        distinct_put_put documentDistinct valueDistinct writtenDistinct
          (segment :: rest) (segment :: behind)
      have backDistinct :=
        distinct_put_put documentDistinct writtenDistinct valueDistinct
          (segment :: behind) (segment :: rest)
      -- Either order writes twice below the shared segment, and nowhere else.
      apply same_put_of_children kind forthDistinct backDistinct
      intro inner
      by_cases common : inner = segment
      · rw [common, child?_put_self, child?_put_self, child?_put_self,
          child?_put_self]
        exact .some (ih (documentDistinct.child?_getD segment))
      · rw [child?_put_put_of_ne common, child?_put_put_of_ne common,
          child?_put_of_ne common document rest behind value written]
        exact
          (distinct_put documentDistinct writtenDistinct
            (segment :: behind)).sameFound_child? inner

/-! ## Reach behind a write -/

/-- A write makes room for its own segment. -/
theorem reaches_put
    (document : Value) (segment : Segment) (rest : Location) (value : Value) :
    Reaches (some (document.put (segment :: rest) value)) segment := by
  rintro index rfl
  rw [lengthAt_nil, Option.map_some, Option.getD_some, length_itemsOrNone_put]
  omega

/-- Null has no arrays below it, so it may stand for what is not there. -/
theorem paddingFault?_getD (document : Option Value) (location : Location) :
    paddingFault? (some (document.getD .null)) location =
      paddingFault? document location := by
  cases document with
  | some found => rfl
  | none =>
      cases location with
      | nil => rfl
      | cons segment rest => cases segment <;> rfl

/--
A write within reach leaves the faults of a location that parts from it at two
names: above, every array that both pass is long enough for the index they
share, and below, nothing has changed.
-/
theorem paddingFault?_put_of_names
    {name other : String}
    (distinct : other ≠ name)
    {document : Value} {common rest : Location}
    (sound :
      paddingFault? (some document) (common ++ .member name :: rest) = none)
    (behind : Location) (value : Value) :
    paddingFault? (some (document.put (common ++ .member name :: rest) value))
        (common ++ .member other :: behind) =
      paddingFault? (some document) (common ++ .member other :: behind) := by
  induction common generalizing document with
  | nil =>
      rw [List.nil_append, List.nil_append,
        paddingFault?_cons_of_reaches (reaches_member other),
        paddingFault?_cons_of_reaches (reaches_member other),
        Option.bind_some, Option.bind_some, child?_put_member_of_ne distinct]
  | cons segment common ih =>
      -- The write reaches the shared segment, and then has made room for it.
      rw [List.cons_append] at sound
      have reached := reaches_of_paddingFault?_eq_none sound
      rw [paddingFault?_cons_of_reaches reached, Option.bind_some,
        ← paddingFault?_getD] at sound
      rw [List.cons_append, List.cons_append,
        paddingFault?_cons_of_reaches (reaches_put document segment _ value),
        paddingFault?_cons_of_reaches reached, Option.bind_some,
        Option.bind_some, child?_put_self, ih sound, paddingFault?_getD]

end Value

namespace TagTable

/-! ## Tables that agree -/

/-- Tables with the same document, the same keys and the same readings. -/
structure Agrees (left right : TagTable) : Prop where
  same_document : left.document.same right.document = true
  mem_keys_iff :
    ∀ key,
      key ∈ left.entries.map Prod.fst ↔ key ∈ right.entries.map Prod.fst
  sameFound_get? :
    ∀ path, Value.SameFound (left.get? path) (right.get? path)

theorem Reflects.mem_keys_iff
    {table : TagTable} {locations : List Location}
    (reflects : table.Reflects locations)
    (key : String) :
    key ∈ table.entries.map Prod.fst ↔
      ∃ location ∈ locations, location.text = key ∧
        (table.document.at? location).isSome = true := by
  simp only [Option.isSome_iff_exists]
  constructor
  · intro listed
    rcases List.mem_map.mp listed with ⟨⟨_, value⟩, entry, rfl⟩
    rcases (reflects.mem_entries_iff _ _).mp entry with
      ⟨location, written, text, present⟩
    exact ⟨location, written, text, value, present⟩
  · rintro ⟨location, written, text, value, present⟩
    have entry :=
      (reflects.mem_entries_iff key value).mpr
        ⟨location, written, text, present⟩
    exact List.mem_map.mpr ⟨_, entry, rfl⟩

/-- Tables that reflect the same locations and hold the same document agree. -/
theorem agrees_of_reflects
    {left right : TagTable} {leftWritten rightWritten : List Location}
    (leftReflects : left.Reflects leftWritten)
    (rightReflects : right.Reflects rightWritten)
    (sameWritten :
      ∀ location, location ∈ leftWritten ↔ location ∈ rightWritten)
    (leftDistinct : left.document.Distinct)
    (rightDistinct : right.document.Distinct)
    (same : left.document.same right.document = true) :
    left.Agrees right where
  same_document := same
  mem_keys_iff key := by
    have sameThere (location : Location) :
        (left.document.at? location).isSome =
          (right.document.at? location).isSome := by
      rcases Value.sameFound_cases
          (Value.sameFound_at? leftDistinct rightDistinct same location) with
        ⟨noLeft, noRight⟩ | ⟨value, other, leftFound, rightFound, _⟩
      · rw [noLeft, noRight]
      · rw [leftFound, rightFound]
        rfl
    simp only [leftReflects.mem_keys_iff, rightReflects.mem_keys_iff,
      sameWritten, sameThere]
  sameFound_get? path := by
    cases located : Path.locate path with
    | error error =>
        unfold get? Path.canonical
        rw [located, Except.map]
        exact .none
    | ok location =>
        rw [leftReflects.get?_of_locate located,
          rightReflects.get?_of_locate located]
        simp only [sameWritten]
        split
        · exact Value.sameFound_at? leftDistinct rightDistinct same location
        · exact .none

/-! ## Insertions in a row -/

/-- The table behind insertions that are all carried out, in order. -/
def insertEach (table : TagTable) : List Insertion → Except PathError TagTable
  | [] => .ok table
  | insertion :: rest =>
    (table.insert insertion.path insertion.value).bind fun inserted =>
      inserted.2.insertEach rest

theorem insertEach_cons_eq_ok_iff
    {insertion : Insertion} {location : Location}
    (located : Path.locate insertion.path = .ok location)
    (table behind : TagTable) (rest : List Insertion) :
    table.insertEach (insertion :: rest) = .ok behind ↔
      Value.paddingFault? (some table.document) location = none ∧
        (table.recordAt location insertion.value).insertEach rest =
          .ok behind := by
  rw [insertEach]
  cases outcome : table.insert insertion.path insertion.value with
  | error error =>
      simp only [Except.bind, reduceCtorEq, false_iff, not_and]
      intro sound
      have inserted :=
        (table.insert_eq_ok_iff _ insertion.value _ _).mpr
          ⟨location, located, sound, rfl, rfl⟩
      rw [outcome] at inserted
      cases inserted
  | ok inserted =>
      rcases (table.insert_eq_ok_iff _ _ _ _).mp outcome with
        ⟨found, same, sound, _, next⟩
      rcases Except.ok.inj (located.symm.trans same) with rfl
      simp only [Except.bind, sound, next, true_and]

/-- Two insertions are carried out in a row if each is within reach where it is made. -/
theorem insertEach_pair_eq_ok_iff
    {first second : Insertion} {left right : Location}
    (firstLocated : Path.locate first.path = .ok left)
    (secondLocated : Path.locate second.path = .ok right)
    (table behind : TagTable) :
    table.insertEach [first, second] = .ok behind ↔
      (Value.paddingFault? (some table.document) left = none ∧
        Value.paddingFault? (some (table.document.put left first.value))
            right =
          none) ∧
        (table.recordAt left first.value).recordAt right second.value =
          behind := by
  rw [insertEach_cons_eq_ok_iff firstLocated,
    insertEach_cons_eq_ok_iff secondLocated, insertEach, Except.ok.injEq,
    document_recordAt, and_assoc]

/-- Two insertions parted at two names are carried out if each is within reach at first. -/
theorem exists_insertEach_pair_iff_of_names
    {first second : Insertion} {common rest behind : Location}
    {name other : String}
    (distinct : name ≠ other)
    (firstLocated :
      Path.locate first.path = .ok (common ++ .member name :: rest))
    (secondLocated :
      Path.locate second.path = .ok (common ++ .member other :: behind))
    (table : TagTable) :
    (∃ next, table.insertEach [first, second] = .ok next) ↔
      Value.paddingFault? (some table.document)
            (common ++ .member name :: rest) =
          none ∧
        Value.paddingFault? (some table.document)
            (common ++ .member other :: behind) =
          none := by
  simp only [insertEach_pair_eq_ok_iff firstLocated secondLocated]
  constructor
  · rintro ⟨_, ⟨firstSound, secondSound⟩, _⟩
    rw [Value.paddingFault?_put_of_names distinct.symm firstSound]
      at secondSound
    exact ⟨firstSound, secondSound⟩
  · rintro ⟨firstSound, secondSound⟩
    refine ⟨_, ⟨firstSound, ?_⟩, rfl⟩
    rwa [Value.paddingFault?_put_of_names distinct.symm firstSound]

/-! ## Tables behind insertions -/

theorem distinct_attempt
    {table : TagTable} {insertion : Insertion}
    (distinct : table.document.Distinct)
    (valueDistinct : insertion.value.Distinct) :
    (table.attempt insertion).document.Distinct := by
  rw [attempt_eq]
  cases table.written? insertion with
  | none => exact distinct
  | some location => exact Value.distinct_put distinct valueDistinct location

/-- Insertions of values without repeated names leave a document without them. -/
theorem distinct_after
    {table : TagTable} {insertions : List Insertion}
    (distinct : table.document.Distinct)
    (valuesDistinct :
      ∀ insertion ∈ insertions, insertion.value.Distinct) :
    (table.after insertions).document.Distinct := by
  induction insertions generalizing table with
  | nil => exact distinct
  | cons insertion rest ih =>
      rcases List.forall_mem_cons.mp valuesDistinct with ⟨first, others⟩
      rw [after, List.foldl_cons]
      exact ih (distinct_attempt distinct first) others

theorem distinct_ofInsertions
    {insertions : List Insertion}
    (valuesDistinct :
      ∀ insertion ∈ insertions, insertion.value.Distinct) :
    (ofInsertions insertions).document.Distinct :=
  distinct_after (.object List.nodup_nil (by simp)) valuesDistinct

/--
Behind any insertions, let two more name locations that part at two names or at
two indices, where no value repeats a name in one of its objects.  If both
orders of the two are carried out, the tables that they leave agree: the
documents are the same but for the order of members, the keys are the same, and
every path reads the same.  If the locations part at two names, one order is
carried out exactly when the other is.
-/
theorem insertions_commute
    {insertions : List Insertion} {first second : Insertion}
    (valuesDistinct :
      ∀ insertion ∈ first :: second :: insertions, insertion.value.Distinct)
    {left right : Location}
    (firstLocated : Path.locate first.path = .ok left)
    (secondLocated : Path.locate second.path = .ok right)
    (beside : Location.Beside left right) :
    (∀ forth back,
      (ofInsertions insertions).insertEach [first, second] = .ok forth →
      (ofInsertions insertions).insertEach [second, first] = .ok back →
        forth.Agrees back) ∧
    (∀ common name other rest behind,
      left = common ++ .member name :: rest →
      right = common ++ .member other :: behind →
      name ≠ other →
        ((∃ forth,
            (ofInsertions insertions).insertEach [first, second] =
              .ok forth) ↔
          ∃ back,
            (ofInsertions insertions).insertEach [second, first] =
              .ok back)) := by
  constructor
  · intro forth back forthMade backMade
    rcases (insertEach_pair_eq_ok_iff firstLocated secondLocated _ _).mp
        forthMade with ⟨_, rfl⟩
    rcases (insertEach_pair_eq_ok_iff secondLocated firstLocated _ _).mp
        backMade with ⟨_, rfl⟩
    have firstDistinct := valuesDistinct first (by simp)
    have secondDistinct := valuesDistinct second (by simp)
    have distinct : (ofInsertions insertions).document.Distinct :=
      distinct_ofInsertions fun insertion member =>
        valuesDistinct insertion (by simp [member])
    have reflects := reflects_ofInsertions insertions
    apply agrees_of_reflects
      ((reflects.recordAt left first.value).recordAt right second.value)
      ((reflects.recordAt right second.value).recordAt left first.value)
    · intro location
      simp only [List.mem_append, List.mem_singleton]
      exact or_right_comm
    · exact Value.distinct_put_put distinct firstDistinct secondDistinct left
        right
    · exact Value.distinct_put_put distinct secondDistinct firstDistinct right
        left
    · exact Value.same_put_put beside distinct firstDistinct secondDistinct
  · rintro common name other rest behind rfl rfl distinct
    rw [exists_insertEach_pair_iff_of_names distinct firstLocated
        secondLocated,
      exists_insertEach_pair_iff_of_names distinct.symm secondLocated
        firstLocated]
    exact and_comm

/-- Two members are written into an object in either order. -/
theorem insertions_commute_members :
    ∃ forth back,
      (ofInsertions [⟨"a", .null⟩]).insertEach
          [⟨"a.x", .bool true⟩, ⟨"a.y", .bool false⟩] =
        .ok forth ∧
      (ofInsertions [⟨"a", .null⟩]).insertEach
          [⟨"a.y", .bool false⟩, ⟨"a.x", .bool true⟩] =
        .ok back ∧
      forth.Agrees back := by
  have valuesDistinct :
      ∀ insertion ∈
        [(⟨"a.x", .bool true⟩ : Insertion), ⟨"a.y", .bool false⟩,
          ⟨"a", .null⟩],
        insertion.value.Distinct := by
    simp only [List.forall_mem_cons]
    exact ⟨.bool true, .bool false, .null, by simp⟩
  have commute :=
    insertions_commute valuesDistinct
      (show Path.locate "a.x" = .ok [.member "a", .member "x"] from rfl)
      (show Path.locate "a.y" = .ok [.member "a", .member "y"] from rfl)
      (by decide)
  have forthMade : ∃ forth,
      (ofInsertions [⟨"a", .null⟩]).insertEach
          [⟨"a.x", .bool true⟩, ⟨"a.y", .bool false⟩] =
        .ok forth :=
    ⟨_, rfl⟩
  rcases (commute.2 [.member "a"] "x" "y" [] [] rfl rfl (by decide)).mp
      forthMade with ⟨back, backMade⟩
  rcases forthMade with ⟨forth, forthMade⟩
  exact
    ⟨forth, back, forthMade, backMade,
      commute.1 forth back forthMade backMade⟩

end TagTable

end Stencil
