import Stencil.Proofs.TagTable.Writing
import Stencil.TagTable

/-!
# Indices out of reach

An insertion pads an array up to the index that it writes, but only so far.
It is refused for the first index on the way of its location that lies too far
behind the end of the array found there; where nothing or no array is found,
the array that would be made is empty.
-/

namespace Stencil

namespace Value

/-- The length of the array at a location; an array that would have to be made is empty. -/
def lengthAt (document : Option Value) (location : Location) : Nat :=
  ((document.bind fun root => root.at? location).map fun found =>
    found.itemsOrNone.length).getD 0

theorem lengthAt_nil (document : Option Value) :
    lengthAt document [] =
      (document.map fun found => found.itemsOrNone.length).getD 0 := by
  cases document with
  | none => rfl
  | some root => rfl

theorem lengthAt_cons
    (document : Option Value) (segment : Segment) (rest : Location) :
    lengthAt document (segment :: rest) =
      lengthAt (document.bind fun root => root.child? segment) rest := by
  cases document with
  | none => rfl
  | some root =>
      rw [lengthAt, lengthAt, Option.bind_some, Option.bind_some, at?_cons]

/-- An index on the way of a location that lies too far behind the end of its array. -/
structure Overreach
    (document : Option Value) (location before : Location)
    (position : Nat) : Prop where
  passes : before ++ [.index position] <+: location
  far : lengthAt document before + paddingLimit < position

/-- The first overreach on the way of a location. -/
structure FirstOverreach
    (document : Option Value) (location before : Location)
    (position : Nat) : Prop
    extends Overreach document location before position where
  first :
    ∀ earlier other,
      Overreach document location earlier other →
        before.length ≤ earlier.length

variable
  {document : Option Value} {segment : Segment}
  {rest before : Location} {position : Nat}

theorem overreach_cons_iff :
    Overreach document (segment :: rest) before position ↔
      (before = [] ∧ segment = .index position ∧
        lengthAt document [] + paddingLimit < position) ∨
      ∃ behind, before = segment :: behind ∧
        Overreach (document.bind fun root => root.child? segment) rest
          behind position := by
  constructor
  · rintro ⟨passes, far⟩
    cases before with
    | nil =>
        rcases List.cons_prefix_cons.mp passes with ⟨same, _⟩
        exact Or.inl ⟨rfl, same.symm, far⟩
    | cons first behind =>
        rcases List.cons_prefix_cons.mp passes with ⟨rfl, inside⟩
        rw [lengthAt_cons] at far
        exact Or.inr ⟨behind, rfl, inside, far⟩
  · rintro (⟨rfl, rfl, far⟩ | ⟨behind, rfl, inside, far⟩)
    · exact ⟨by simp, far⟩
    · rw [← lengthAt_cons] at far
      exact ⟨List.cons_prefix_cons.mpr ⟨rfl, inside⟩, far⟩

/-- A segment that is no index too far behind the end of the array followed. -/
def Reaches (document : Option Value) (segment : Segment) : Prop :=
  ∀ index,
    segment = .index index → ¬lengthAt document [] + paddingLimit < index

theorem reaches_member (name : String) :
    Reaches document (.member name) :=
  nofun

/-- Behind a segment that is within reach the first overreach is that of the rest. -/
theorem firstOverreach_cons_iff (reached : Reaches document segment) :
    FirstOverreach document (segment :: rest) before position ↔
      ∃ behind, before = segment :: behind ∧
        FirstOverreach (document.bind fun root => root.child? segment) rest
          behind position := by
  constructor
  · rintro ⟨overreach, first⟩
    rcases overreach_cons_iff.mp overreach with
      ⟨_, same, far⟩ | ⟨behind, rfl, inside⟩
    · exact absurd far (reached position same)
    · refine ⟨behind, rfl, inside, ?_⟩
      intro earlier other later
      have whole :=
        first (segment :: earlier) other
          (overreach_cons_iff.mpr (.inr ⟨earlier, rfl, later⟩))
      exact Nat.le_of_succ_le_succ whole
  · rintro ⟨behind, rfl, inside, first⟩
    refine ⟨overreach_cons_iff.mpr (.inr ⟨behind, rfl, inside⟩), ?_⟩
    intro earlier other whole
    rcases overreach_cons_iff.mp whole with
      ⟨_, same, far⟩ | ⟨later, rfl, further⟩
    · exact absurd far (reached other same)
    · exact Nat.succ_le_succ (first later other further)

theorem exists_firstOverreach_cons_iff
    {length : Nat}
    (reached : Reaches document segment) :
    (∃ before,
        FirstOverreach document (segment :: rest) before position ∧
          length = lengthAt document before) ↔
      ∃ behind,
        FirstOverreach (document.bind fun root => root.child? segment) rest
            behind position ∧
          length =
            lengthAt (document.bind fun root => root.child? segment)
              behind := by
  constructor
  · rintro ⟨before, first, measured⟩
    rcases (firstOverreach_cons_iff reached).mp first with
      ⟨behind, rfl, inside⟩
    rw [lengthAt_cons] at measured
    exact ⟨behind, inside, measured⟩
  · rintro ⟨behind, inside, measured⟩
    rw [← lengthAt_cons] at measured
    exact
      ⟨segment :: behind,
        (firstOverreach_cons_iff reached).mpr ⟨behind, rfl, inside⟩,
        measured⟩

/-- The fault reported is the first overreach, with the length of its array. -/
theorem paddingFault?_eq_some_iff
    {location : Location} {length : Nat} :
    paddingFault? document location = some (position, length) ↔
      ∃ before,
        FirstOverreach document location before position ∧
          length = lengthAt document before := by
  induction location generalizing document with
  | nil =>
      constructor
      · intro found
        cases found
      · rintro ⟨before, ⟨⟨passes, _⟩, _⟩, _⟩
        simp at passes
  | cons segment rest ih =>
      cases segment with
      | member name =>
          rw [exists_firstOverreach_cons_iff]
          · exact ih
          · exact reaches_member name
      | index index =>
          rw [paddingFault?, ← lengthAt_nil]
          by_cases far : lengthAt document [] + paddingLimit < index
          · rw [if_pos far, Option.some.injEq, Prod.mk.injEq]
            constructor
            · rintro ⟨rfl, rfl⟩
              exact ⟨[], ⟨⟨by simp, far⟩, fun _ _ _ => Nat.zero_le _⟩, rfl⟩
            · rintro ⟨before, ⟨overreach, first⟩, measured⟩
              -- The head is an overreach itself, so none behind it is first.
              have empty : before = [] :=
                List.length_eq_zero_iff.mp
                  (Nat.le_zero.mp (first [] index ⟨by simp, far⟩))
              rw [empty] at overreach measured
              rcases List.cons_prefix_cons.mp overreach.passes with ⟨same, _⟩
              exact ⟨(Segment.index.inj same).symm, measured.symm⟩
          · rw [if_neg far, exists_firstOverreach_cons_iff]
            · exact ih
            · rintro other ⟨⟩
              exact far

/-- Behind a segment that is within reach the fault is that of the rest. -/
theorem paddingFault?_cons_of_reaches (reached : Reaches document segment) :
    paddingFault? document (segment :: rest) =
      paddingFault? (document.bind fun root => root.child? segment) rest := by
  cases segment with
  | member name => rfl
  | index index =>
      rw [paddingFault?, ← lengthAt_nil, if_neg (reached index rfl)]
      rfl

/-- No fault is reported exactly when no index on the way is out of reach. -/
theorem paddingFault?_eq_none_iff {location : Location} :
    paddingFault? document location = none ↔
      ∀ before position, ¬Overreach document location before position := by
  constructor
  · intro sound before position overreach
    induction location generalizing document before with
    | nil =>
        have passes := overreach.passes
        simp at passes
    | cons segment rest ih =>
        rcases overreach_cons_iff.mp overreach with
          ⟨rfl, rfl, far⟩ | ⟨behind, rfl, inside⟩
        · rw [paddingFault?, ← lengthAt_nil, if_pos far] at sound
          cases sound
        · cases segment with
          | member name => exact ih sound behind inside
          | index index =>
              rw [paddingFault?] at sound
              split at sound
              · cases sound
              · exact ih sound behind inside
  · intro reached
    cases fault : paddingFault? document location with
    | none => rfl
    | some found =>
        rcases found with ⟨position, length⟩
        rcases paddingFault?_eq_some_iff.mp fault with ⟨before, first, _⟩
        exact absurd first.toOverreach (reached before position)

theorem reaches_of_paddingFault?_eq_none
    (sound : paddingFault? document (segment :: rest) = none) :
    Reaches document segment := by
  rintro index rfl far
  exact paddingFault?_eq_none_iff.mp sound [] index ⟨by simp, far⟩

end Value

/-- An insertion is refused for a path that is no location or for an index out of reach. -/
theorem TagTable.insert_eq_error_iff
    {table : TagTable} {path : String} {value : Value} {error : PathError} :
    table.insert path value = .error error ↔
      Path.locate path = .error error ∨
      ∃ location before position,
        Path.locate path = .ok location ∧
          Value.FirstOverreach (some table.document) location before
            position ∧
          error =
            .indexOutOfRange location.text position
              (Value.lengthAt (some table.document) before) := by
  rw [insert]
  cases located : Path.locate path with
  | error cause => simp
  | ok location =>
      dsimp only
      cases fault : Value.paddingFault? (some table.document) location with
      | none =>
          simp only [reduceCtorEq, false_or, false_iff]
          rintro ⟨_, before, position, ⟨⟩, first, _⟩
          have reported :=
            Value.paddingFault?_eq_some_iff.mpr ⟨before, first, rfl⟩
          rw [fault] at reported
          cases reported
      | some found =>
          rcases found with ⟨position, length⟩
          rcases Value.paddingFault?_eq_some_iff.mp fault with
            ⟨before, first, rfl⟩
          simp only [reduceCtorEq, false_or]
          constructor
          · intro refused
            exact
              ⟨location, before, position, rfl, first,
                (Except.error.inj refused).symm⟩
          · rintro ⟨_, other, index, ⟨⟩, second, rfl⟩
            have reported :=
              Value.paddingFault?_eq_some_iff.mpr ⟨other, second, rfl⟩
            rw [fault] at reported
            rcases Prod.mk.inj (Option.some.inj reported) with ⟨rfl, same⟩
            rw [same]

end Stencil
