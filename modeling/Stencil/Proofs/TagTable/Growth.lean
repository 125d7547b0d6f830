import Stencil.Proofs.TagTable.History
import Stencil.Proofs.TagTable.Reading

/-!
# How arrays grow

An insertion makes or keeps an array at every index on the way of its location.
The array holds at least the index written, and what was missing in front of it
is null.  An insertion is carried out exactly when every index is within reach
of the array that it meets, so that no array grows by more than the padding
allowed and the item written.
-/

namespace Stencil

namespace Value

/-! ## One write -/

/-- No fault is reported exactly when every index lies near the end of its array. -/
theorem paddingFault?_eq_none_iff_near
    {document : Option Value} {location : Location} :
    paddingFault? document location = none ↔
      ∀ before position, before ++ [.index position] <+: location →
        position ≤ lengthAt document before + 1024 := by
  rw [paddingFault?_eq_none_iff]
  constructor
  · intro sound before position passes
    exact Nat.le_of_not_lt fun far => sound before position ⟨passes, far⟩
  · intro near before position overreach
    exact Nat.not_lt_of_le (near before position overreach.passes)
      overreach.far

/-- Items that have grown up to an index from those of the array at a location. -/
structure GrownTo
    (document : Value) (before : Location) (position : Nat)
    (items : List Value) : Prop where
  length_eq :
    items.length = max (lengthAt (some document) before) (position + 1)
  gap_null :
    ∀ gap, lengthAt (some document) before ≤ gap → gap < position →
      items[gap]? = some .null

/-- A write leaves a grown array at every index on the way of its location. -/
theorem exists_grownTo_put
    {location before : Location} {position : Nat}
    (passes : before ++ [.index position] <+: location)
    (document value : Value) :
    ∃ items,
      (document.put location value).at? before = some (.array items) ∧
        document.GrownTo before position items := by
  rcases passes with ⟨rest, rfl⟩
  rw [List.append_assoc, List.singleton_append, at?_put_above, put]
  refine ⟨_, rfl, ?_, ?_⟩
  · rw [List.length_set, length_padTo, length_foundOrNull]
  · intro gap beyond inside
    rw [← length_foundOrNull] at beyond
    rw [List.getElem?_set_ne (Nat.ne_of_gt inside), getElem?_padTo,
      if_neg (Nat.not_lt_of_le beyond), if_pos (Nat.le_of_lt inside)]

end Value

/-! ## Insertions -/

namespace TagTable

/--
Let a path name a location.  An insertion there is carried out exactly when no
index on the way lies more than 1024 behind the end of the array that it meets,
and is refused otherwise for the first index that does.  When it is carried out,
every array on the way is as long as before or just long enough for its index,
the gap in front of the index is null, and no array grows by more than 1024
nulls and the item written.  The length that an index needs fits sixty-four bits
if that of the array fits them with a sign.
-/
theorem insert_within_reach
    {path : String} {location : Location}
    (located : Path.locate path = .ok location)
    (table : TagTable) (value : Value) :
    ((∃ previous next, table.insert path value = .ok (previous, next)) ↔
      ∀ before position, before ++ [.index position] <+: location →
        position ≤ Value.lengthAt (some table.document) before + 1024) ∧
    (∀ error,
      table.insert path value = .error error ↔
        ∃ before position,
          Value.FirstOverreach (some table.document) location before
            position ∧
          error =
            .indexOutOfRange location.text position
              (Value.lengthAt (some table.document) before)) ∧
    (∀ previous next,
      table.insert path value = .ok (previous, next) →
        ∀ before position, before ++ [.index position] <+: location →
          ∃ items,
            next.document.at? before = some (.array items) ∧
              table.document.GrownTo before position items ∧
              items.length ≤
                Value.lengthAt (some table.document) before + (1024 + 1) ∧
              (Value.lengthAt (some table.document) before <
                  Numeral.integerLimit →
                position + 1 < Numeral.countLimit)) := by
  refine ⟨?_, ?_, ?_⟩
  · rw [← Value.paddingFault?_eq_none_iff_near]
    simp only [insert_eq_ok_iff, located]
    constructor
    · rintro ⟨_, _, _, ⟨⟩, sound, _⟩
      exact sound
    · intro sound
      exact ⟨_, _, location, rfl, sound, rfl, rfl⟩
  · intro error
    rw [insert_eq_error_iff, located]
    constructor
    · rintro (absurdity | ⟨_, before, position, ⟨⟩, first, same⟩)
      · cases absurdity
      · exact ⟨before, position, first, same⟩
    · rintro ⟨before, position, first, same⟩
      exact Or.inr ⟨location, before, position, rfl, first, same⟩
  · intro previous next inserted before position passes
    rcases (insert_eq_ok_iff _ _ _ _ _).mp inserted with
      ⟨_, same, sound, _, rfl⟩
    rcases Except.ok.inj (located.symm.trans same) with rfl
    rcases Value.exists_grownTo_put passes table.document value with
      ⟨items, found, grown⟩
    have near :=
      Value.paddingFault?_eq_none_iff_near.mp sound before position passes
    refine ⟨items, found, grown, ?_, ?_⟩
    · rw [grown.length_eq]
      omega
    · intro small
      have wide : Numeral.integerLimit + (1024 + 1) < Numeral.countLimit := by
        decide
      omega

/-- A third item is written into an array of one, behind a padding null. -/
theorem insert_within_reach_third :
    Path.locate "a[2]" = .ok [.member "a", .index 2] ∧
      ∃ previous next,
        TagTable.insert
            { document := .object [("a", .array [.bool false])] }
            "a[2]" (.bool true) =
          .ok (previous, next) ∧
        ∃ items, next.document.at? [.member "a"] = some (.array items) ∧
          items.length = 3 ∧ items[1]? = some .null := by
  have located : Path.locate "a[2]" = .ok [.member "a", .index 2] := rfl
  have within :=
    insert_within_reach located
      { document := .object [("a", .array [.bool false])] } (.bool true)
  have inserted : ∃ previous next,
      TagTable.insert
          { document := .object [("a", .array [.bool false])] }
          "a[2]" (.bool true) =
        .ok (previous, next) :=
    ⟨_, _, rfl⟩
  rcases inserted with ⟨previous, next, inserted⟩
  rcases within.2.2 previous next inserted [.member "a"] 2
      (List.prefix_refl _) with ⟨items, found, grown, _, _⟩
  exact
    ⟨located, previous, next, inserted, items, found, grown.length_eq,
      grown.gap_null 1 (Nat.le_refl 1) (by decide)⟩

end TagTable

end Stencil
