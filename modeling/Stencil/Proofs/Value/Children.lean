import Stencil.Proofs.TagTable.Writing
import Stencil.Proofs.Value.Sameness

/-!
# Sameness by children

Two objects without repeated names are the same when every name leads to the
same in both, and two arrays when every index does.  So sameness of documents
goes down to every location, and it can be shown of two writes by looking at
their children.
-/

namespace Stencil.Value

/-- Sameness of what two documents hold in one place: nothing in both, or the same. -/
abbrev SameFound : Option Value → Option Value → Prop :=
  Option.Rel fun left right => same left right = true

theorem sameFound_cases
    {left right : Option Value}
    (found : SameFound left right) :
    (left = none ∧ right = none) ∨
      ∃ value other,
        left = some value ∧ right = some other ∧ same value other = true := by
  cases found with
  | none => exact Or.inl ⟨rfl, rfl⟩
  | some agree => exact Or.inr ⟨_, _, rfl, rfl, agree⟩

/-! ## Items -/

theorem sameItems_iff (left right : List Value) :
    sameItems left right = true ↔
      ∀ position : Nat, SameFound left[position]? right[position]? := by
  induction left generalizing right with
  | nil =>
      cases right with
      | nil => simp [sameItems, SameFound]
      | cons other more =>
          simp only [sameItems, Bool.false_eq_true, false_iff]
          intro found
          cases found 0
  | cons item rest ih =>
      cases right with
      | nil =>
          simp only [sameItems, Bool.false_eq_true, false_iff]
          intro found
          cases found 0
      | cons other more =>
          rw [sameItems, Bool.and_eq_true, ih]
          constructor
          · rintro ⟨first, others⟩ position
            cases position with
            | zero => exact .some first
            | succ position => exact others position
          · intro found
            constructor
            · cases found 0 with
              | some first => exact first
            · exact fun position => found (position + 1)

theorem same_array_iff (left right : List Value) :
    same (.array left) (.array right) = true ↔
      ∀ position : Nat, SameFound left[position]? right[position]? := by
  rw [same, sameItems_iff]

/-! ## Members -/

theorem mem_names_iff
    {members : List (String × Value)}
    (names : (members.map Prod.fst).Nodup)
    (name : String) :
    name ∈ members.map Prod.fst ↔
      ∃ value, members.lookup name = some value := by
  simp only [lookup_eq_some_iff_mem names]
  constructor
  · intro listed
    rcases List.mem_map.mp listed with ⟨⟨_, value⟩, held, rfl⟩
    exact ⟨value, held⟩
  · rintro ⟨value, held⟩
    exact List.mem_map.mpr ⟨_, held, rfl⟩

theorem same_object_iff_lookup
    {left right : List (String × Value)}
    (leftNames : (left.map Prod.fst).Nodup)
    (rightNames : (right.map Prod.fst).Nodup) :
    same (.object left) (.object right) = true ↔
      ∀ name, SameFound (left.lookup name) (right.lookup name) := by
  rw [same_object_iff left rightNames]
  constructor
  · rintro ⟨size, found⟩ name
    have permuted := names_perm leftNames size found
    cases held : left.lookup name with
    | none =>
        cases present : right.lookup name with
        | none => exact .none
        | some other =>
            have listed :=
              permuted.symm.subset
                ((mem_names_iff rightNames name).mpr ⟨other, present⟩)
            rcases (mem_names_iff leftNames name).mp listed with
              ⟨value, known⟩
            rw [held] at known
            cases known
    | some value =>
        rcases found _ ((lookup_eq_some_iff_mem leftNames _ _).mp held) with
          ⟨other, present, agree⟩
        rw [(lookup_eq_some_iff_mem rightNames _ _).mpr present]
        exact .some agree
  · intro found
    constructor
    · have namesAgree (name : String) :
          name ∈ left.map Prod.fst ↔ name ∈ right.map Prod.fst := by
        rw [mem_names_iff leftNames, mem_names_iff rightNames]
        rcases sameFound_cases (found name) with
          ⟨noLeft, noRight⟩ | ⟨value, other, leftHeld, rightHeld, _⟩
        · simp [noLeft, noRight]
        · simp [leftHeld, rightHeld]
      -- Names without repetition that agree are equally many.
      have permuted :=
        (List.perm_ext_iff_of_nodup leftNames rightNames).mpr namesAgree
      simpa using permuted.length_eq
    · rintro ⟨name, value⟩ held
      have known := (lookup_eq_some_iff_mem leftNames _ _).mpr held
      rcases sameFound_cases (found name) with
        ⟨absent, _⟩ | ⟨_, other, same, present, agree⟩
      · rw [known] at absent
        cases absent
      · rw [known] at same
        rcases Option.some.inj same with rfl
        exact
          ⟨other, (lookup_eq_some_iff_mem rightNames _ _).mp present, agree⟩

/-! ## Documents -/

theorem same_refl {value : Value} (distinct : value.Distinct) :
    same value value = true := by
  induction distinct with
  | null => rfl
  | bool truth => simp [same]
  | number quantity => rw [same, Number.same_iff_identity]
  | text content => simp [same]
  | @array items each ih =>
      rw [same_array_iff]
      intro position
      cases held : items[position]? with
      | none => exact .none
      | some item => exact .some (ih item (List.mem_of_getElem? held))
  | object names each ih =>
      rw [same_object_iff _ names]
      exact ⟨rfl, fun member held => ⟨member.2, held, ih member held⟩⟩

theorem Distinct.child?
    {value child : Value} {segment : Segment}
    (distinct : value.Distinct)
    (found : value.child? segment = some child) :
    child.Distinct := by
  cases distinct with
  | array each =>
      cases segment with
      | member name => cases found
      | index position => exact each child (List.mem_of_getElem? found)
  | object names each =>
      cases segment with
      | member name =>
          exact each _ ((lookup_eq_some_iff_mem names name child).mp found)
      | index position => cases found
  | _ => cases segment <;> cases found

theorem Distinct.child?_getD
    {value : Value}
    (distinct : value.Distinct)
    (segment : Segment) :
    ((value.child? segment).getD .null).Distinct := by
  cases found : value.child? segment with
  | none => exact .null
  | some child => exact distinct.child? found

theorem Distinct.sameFound_child?
    {value : Value}
    (distinct : value.Distinct)
    (segment : Segment) :
    SameFound (value.child? segment) (value.child? segment) := by
  cases found : value.child? segment with
  | none => exact .none
  | some child => exact .some (same_refl (distinct.child? found))

/-- The same documents have the same children. -/
theorem sameFound_child?
    {left right : Value}
    (leftDistinct : left.Distinct) (rightDistinct : right.Distinct)
    (agree : same left right = true)
    (segment : Segment) :
    SameFound (left.child? segment) (right.child? segment) := by
  cases leftDistinct with
  | array each =>
      cases rightDistinct with
      | array eachRight =>
          cases segment with
          | member name => exact .none
          | index position => exact (same_array_iff _ _).mp agree position
      | _ => simp [same] at agree
  | object names each =>
      cases rightDistinct with
      | object namesRight eachRight =>
          cases segment with
          | member name =>
              exact (same_object_iff_lookup names namesRight).mp agree name
          | index position => exact .none
      | _ => simp [same] at agree
  | _ =>
      cases rightDistinct with
      | array eachRight => simp [same] at agree
      | object namesRight eachRight => simp [same] at agree
      | _ => cases segment <;> exact .none

/-- The same documents hold the same at every location. -/
theorem sameFound_at?
    {left right : Value}
    (leftDistinct : left.Distinct) (rightDistinct : right.Distinct)
    (agree : same left right = true)
    (location : Location) :
    SameFound (left.at? location) (right.at? location) := by
  induction location generalizing left right with
  | nil => exact .some agree
  | cons segment rest ih =>
      rw [at?_cons, at?_cons]
      rcases sameFound_cases
          (sameFound_child? leftDistinct rightDistinct agree segment) with
        ⟨noLeft, noRight⟩ | ⟨child, other, leftFound, rightFound, children⟩
      · rw [noLeft, noRight]
        exact .none
      · rw [leftFound, rightFound]
        exact ih (leftDistinct.child? leftFound)
          (rightDistinct.child? rightFound) children

/-! ## Writes -/

theorem distinct_membersOrNone
    {value : Value}
    (distinct : value.Distinct) :
    (Value.object value.membersOrNone).Distinct := by
  cases distinct with
  | object names each => exact .object names each
  | _ => exact .object List.nodup_nil (by simp [membersOrNone, asMembers?])

theorem distinct_of_mem_itemsOrNone
    {value item : Value}
    (distinct : value.Distinct)
    (member : item ∈ value.itemsOrNone) :
    item.Distinct := by
  cases distinct with
  | array each => exact each item member
  | _ => cases member

/-- A write leaves a document without repeated names. -/
theorem distinct_put
    {document value : Value}
    (documentDistinct : document.Distinct) (valueDistinct : value.Distinct)
    (location : Location) :
    (document.put location value).Distinct := by
  induction location generalizing document with
  | nil => exact valueDistinct
  | cons segment rest ih =>
      cases segment with
      | member name =>
          rw [put]
          have child := documentDistinct.child?_getD (.member name)
          rw [child?, member?_eq_lookup] at child
          exact (distinct_membersOrNone documentDistinct).put (ih child)
      | index position =>
          rw [put]
          have padded :
              ∀ item ∈ padTo position document.itemsOrNone,
                item.Distinct := by
            intro item member
            rcases List.mem_append.mp member with held | padding
            · exact distinct_of_mem_itemsOrNone documentDistinct held
            · rw [List.eq_of_mem_replicate padding]
              exact .null
          refine .array fun item member => ?_
          rcases List.mem_or_eq_of_mem_set member with held | rfl
          · exact padded item held
          · apply ih
            cases found : (padTo position document.itemsOrNone)[position]? with
            | none => exact .null
            | some child => exact padded child (List.mem_of_getElem? found)

/-- Two writes that make one kind of container are the same if their children are. -/
theorem same_put_of_children
    {segment other : Segment}
    (kind : segment.sameKind other = true)
    {document base value written : Value} {rest behind : Location}
    (leftDistinct : (document.put (segment :: rest) value).Distinct)
    (rightDistinct : (base.put (other :: behind) written).Distinct)
    (children :
      ∀ inner,
        SameFound ((document.put (segment :: rest) value).child? inner)
          ((base.put (other :: behind) written).child? inner)) :
    same (document.put (segment :: rest) value)
        (base.put (other :: behind) written) =
      true := by
  cases segment with
  | member name =>
      cases other with
      | member otherName =>
          simp only [put] at leftDistinct rightDistinct children ⊢
          cases leftDistinct with
          | object names each =>
              cases rightDistinct with
              | object namesRight eachRight =>
                  rw [same_object_iff_lookup names namesRight]
                  exact fun inner => children (.member inner)
      | index position => cases kind
  | index position =>
      cases other with
      | member otherName => cases kind
      | index otherPosition =>
          rw [put, put, same_array_iff]
          exact fun inner => children (.index inner)

end Stencil.Value
