import Stencil.Proofs.TagTable.Padding

/-!
# The law of reading after writing

What a location reads behind a write is settled by where it parts from the
location written.  Down to that place both locations walk through containers
that the write keeps or makes; there the rest of the write is made in what was
found, or in null.  So one level decides: below the write its value is read,
another name or an index outside of the gap reads what it read before, an index
in the gap reads a padding null, and the other kind of container is gone.
-/

namespace Stencil

theorem Location.below_or_above_or_parted (location other : Location) :
    (∃ below, other = location ++ below) ∨
      (∃ segment rest, location = other ++ segment :: rest) ∨
      ∃ common segment next rest behind,
        segment ≠ next ∧
          location = common ++ segment :: rest ∧
          other = common ++ next :: behind := by
  induction location generalizing other with
  | nil => exact Or.inl ⟨other, rfl⟩
  | cons segment location ih =>
      cases other with
      | nil => exact Or.inr (Or.inl ⟨segment, location, rfl⟩)
      | cons next other =>
          by_cases same : segment = next
          · subst same
            rcases ih other with
              ⟨below, rfl⟩ | ⟨first, rest, rfl⟩ |
              ⟨common, left, right, rest, behind, apart, rfl, rfl⟩
            · exact Or.inl ⟨below, rfl⟩
            · exact Or.inr (Or.inl ⟨first, rest, rfl⟩)
            · exact Or.inr (Or.inr
                ⟨segment :: common, left, right, rest, behind, apart, rfl,
                  rfl⟩)
          · exact Or.inr (Or.inr
              ⟨[], segment, next, location, other, same, rfl, rfl⟩)

namespace Value

/-! ## Down to where two locations part -/

theorem at?_append (document : Value) (common rest : Location) :
    document.at? (common ++ rest) =
      (document.at? common).bind fun found => found.at? rest := by
  induction common generalizing document with
  | nil => rfl
  | cons segment common ih =>
      rw [List.cons_append, at?_cons, at?_cons, Option.bind_assoc]
      congr 1
      funext child
      exact ih child

theorem null_at?_getD (location : Location) :
    (Value.null.at? location).getD .null = .null := by
  cases location with
  | nil => rfl
  | cons segment rest => cases segment <;> rfl

/-- What a location leads to, with null where there is nothing. -/
def foundOrNull (document : Value) (location : Location) : Value :=
  (document.at? location).getD .null

theorem foundOrNull_cons
    (document : Value) (segment : Segment) (rest : Location) :
    document.foundOrNull (segment :: rest) =
      ((document.child? segment).getD .null).foundOrNull rest := by
  rw [foundOrNull, foundOrNull, at?_cons]
  cases document.child? segment with
  | none => exact (null_at?_getD rest).symm
  | some child => rfl

/-- Null has nothing below it, so it may stand for what is not there. -/
theorem foundOrNull_at?_cons
    (document : Value) (common : Location) (segment : Segment)
    (rest : Location) :
    (document.foundOrNull common).at? (segment :: rest) =
      document.at? (common ++ segment :: rest) := by
  rw [at?_append, foundOrNull]
  cases document.at? common with
  | none => cases segment <;> rfl
  | some found => rfl

theorem length_foundOrNull (document : Value) (location : Location) :
    (document.foundOrNull location).itemsOrNone.length =
      lengthAt (some document) location := by
  rw [foundOrNull, lengthAt, Option.bind_some]
  cases document.at? location with
  | none => rfl
  | some found => rfl

/-- Above the location written, the rest of the write is made in what was there, or in null. -/
theorem at?_put_above
    (document : Value) (common rest : Location) (value : Value) :
    (document.put (common ++ rest) value).at? common =
      some ((document.foundOrNull common).put rest value) := by
  induction common generalizing document with
  | nil => rfl
  | cons segment common ih =>
      rw [List.cons_append, at?_cons, child?_put_self, Option.bind_some, ih,
        foundOrNull_cons]

/-- Below a common part, a write is read as in what the part led to. -/
theorem at?_put_append_append
    (document : Value) (common rest behind : Location) (value : Value) :
    (document.put (common ++ rest) value).at? (common ++ behind) =
      ((document.foundOrNull common).put rest value).at? behind := by
  rw [at?_append, at?_put_above, Option.bind_some]

/-! ## Where they part -/

section Parted

variable
  (document : Value) (common rest behind : Location) (value : Value)

theorem at?_put_of_names
    {name other : String}
    (distinct : other ≠ name) :
    (document.put (common ++ .member name :: rest) value).at?
        (common ++ .member other :: behind) =
      document.at? (common ++ .member other :: behind) := by
  rw [at?_put_append_append, at?_cons, child?_put_member_of_ne distinct,
    ← at?_cons, foundOrNull_at?_cons]

theorem at?_put_of_indices
    {position other : Nat}
    (distinct : other ≠ position) :
    (document.put (common ++ .index position :: rest) value).at?
        (common ++ .index other :: behind) =
      if other < lengthAt (some document) common ∨ position < other then
        document.at? (common ++ .index other :: behind)
      else Value.null.at? behind := by
  rw [at?_put_append_append, at?_cons, child?_put_index_of_ne distinct,
    length_foundOrNull]
  split
  · rw [← at?_cons, foundOrNull_at?_cons]
  · rfl

theorem at?_put_of_clash
    {segment other : Segment}
    (clash : Segment.Clash other segment) :
    (document.put (common ++ segment :: rest) value).at?
        (common ++ other :: behind) =
      none := by
  rw [at?_put_append_append, at?_cons, child?_put_of_clash clash]
  rfl

end Parted

/--
Two locations stand to each other in one of three ways, and what is read at one
of them behind a write at the other follows.  Below the write its value is read.
Above it the rest of the write is made in what was there, or in null.  Parted
at two names nothing changes.  Parted at two indices nothing changes but a gap
between the end of the array and the index written, which is padded with nulls.
Parted at a name and an index nothing is left.
-/
theorem at?_put_by_parting (document : Value) (value : Value) :
    (∀ location below : Location,
      (document.put location value).at? (location ++ below) =
        value.at? below) ∧
    (∀ other segment rest,
      (document.put (other ++ segment :: rest) value).at? other =
        some
          (((document.at? other).getD .null).put (segment :: rest) value)) ∧
    (∀ common name other rest behind,
      name ≠ other →
        (document.put (common ++ .member name :: rest) value).at?
            (common ++ .member other :: behind) =
          document.at? (common ++ .member other :: behind)) ∧
    (∀ common position other rest behind,
      position ≠ other →
        ((other < lengthAt (some document) common ∨ position < other) →
          (document.put (common ++ .index position :: rest) value).at?
              (common ++ .index other :: behind) =
            document.at? (common ++ .index other :: behind)) ∧
        (lengthAt (some document) common ≤ other → other < position →
          (document.put (common ++ .index position :: rest) value).at?
              (common ++ .index other :: behind) =
            if behind = [] then some .null else none)) ∧
    (∀ common segment other rest behind,
      Segment.Clash segment other →
        (document.put (common ++ segment :: rest) value).at?
            (common ++ other :: behind) =
          none) ∧
    (∀ location other : Location,
      (∃ below, other = location ++ below) ∨
        (∃ segment rest, location = other ++ segment :: rest) ∨
        ∃ common segment next rest behind,
          (Segment.Siblings segment next ∨ Segment.Clash segment next) ∧
            location = common ++ segment :: rest ∧
            other = common ++ next :: behind) := by
  refine ⟨?below, ?above, ?names, ?indices, ?clash, ?complete⟩
  case below => exact fun location => at?_put_append document location value
  case above =>
    exact fun other segment rest =>
      at?_put_above document other (segment :: rest) value
  case names =>
    intro common name other rest behind distinct
    exact at?_put_of_names document common rest behind value distinct.symm
  case indices =>
    intro common position other rest behind distinct
    rw [at?_put_of_indices document common rest behind value distinct.symm]
    constructor
    · intro outside
      rw [if_pos outside]
    · intro beyond before
      rw [if_neg (by omega)]
      cases behind with
      | nil => rfl
      | cons below behind => cases below <;> rfl
  case clash =>
    intro common segment other rest behind clash
    exact at?_put_of_clash document common rest behind value clash.symm
  case complete =>
    intro location other
    rcases location.below_or_above_or_parted other with
      below | above |
      ⟨common, segment, next, rest, behind, apart, written, read⟩
    · exact Or.inl below
    · exact Or.inr (Or.inl above)
    · have kinds :=
        (segment.eq_or_siblings_or_clash next).resolve_left apart
      exact Or.inr (Or.inr
        ⟨common, segment, next, rest, behind, kinds, written, read⟩)

/-! ## Telling locations apart -/

/-- What is written at a location is read at no other one. -/
theorem at?_null_put_ne
    {location other : Location}
    (apart : other ≠ location) :
    (null.put location (.bool true)).at? other ≠ some (.bool true) := by
  rcases other.prefix_or_part location with
    (⟨rest, rfl⟩ | ⟨below, rfl⟩) | beside | clashing
  · rw [at?_put_above]
    cases rest with
    | nil => exact absurd (List.append_nil other).symm apart
    | cons segment rest => cases segment <;> nofun
  · rw [at?_put_append]
    cases below with
    | nil => exact absurd (List.append_nil location) apart
    | cons segment below => cases segment <;> nofun
  · rcases at?_put_of_beside beside null (.bool true) with
      same | ⟨_, gap⟩
    · rw [same, null_at?_of_part beside]
      nofun
    · rw [gap]
      nofun
  · rw [at?_put_of_clashing clashing]
    nofun

end Value

namespace Location

/-- Locations that lead to the same value in every document are the same. -/
theorem eq_iff_forall_at? (left right : Location) :
    left = right ↔ ∀ document : Value, document.at? left = document.at? right := by
  constructor
  · rintro rfl document
    rfl
  · intro same
    by_cases equal : left = right
    · exact equal
    · have written :=
        (same (Value.null.put right (.bool true))).trans
          (Value.at?_put_self _ right _)
      exact absurd written (Value.at?_null_put_ne equal)

end Location

end Stencil
