import Mathlib.Data.List.Perm.Subperm
import Stencil.Value.Order

/-!
# Sameness of documents

The names of an object are looked up, so sameness is only symmetric and
transitive where no object holds a name twice.  Of such documents, an object is
the same as another when both have the same names and the same values under
them, in whatever order.
-/

namespace Stencil

namespace Number

/-- What is compared of a number: the integer, or the rank of the double. -/
def identity : Number → Int ⊕ Int
  | .whole integer => .inl integer.value
  | .double float => .inr float.rank

theorem same_iff_identity (left right : Number) :
    left.same right = true ↔ left.identity = right.identity := by
  cases left with
  | whole integer =>
      cases right with
      | whole other => simp [same, identity]
      | double float => simp [same, identity]
  | double float =>
      cases right with
      | whole integer => simp [same, identity]
      | double other => simp [same, identity, Binary64.compare]

end Number

namespace Value

/-- No object of a document, at any depth, holds a name twice. -/
inductive Distinct : Value → Prop where
  | null : Distinct .null
  | bool (truth : Bool) : Distinct (.bool truth)
  | number (quantity : Number) : Distinct (.number quantity)
  | text (content : String) : Distinct (.text content)
  | array {items : List Value} (each : ∀ item ∈ items, Distinct item) :
      Distinct (.array items)
  | object {members : List (String × Value)}
      (names : (members.map Prod.fst).Nodup)
      (each : ∀ member ∈ members, Distinct member.2) :
      Distinct (.object members)

/-! ## Members that are written -/

theorem map_fst_put (name : String) (value : Value) (members : List (String × Value)) :
    (Members.put name value members).map Prod.fst =
      if name ∈ members.map Prod.fst then members.map Prod.fst
      else members.map Prod.fst ++ [name] := by
  induction members with
  | nil => rfl
  | cons first rest hypothesis =>
      obtain ⟨other, held⟩ := first
      by_cases equality : other = name
      · simp [Members.put, equality]
      · simp only [Members.put, equality, if_false, List.map_cons, hypothesis, List.mem_cons,
          Ne.symm equality, false_or]
        split
        case isTrue => rfl
        case isFalse => rfl

theorem mem_put
    {name : String} {value : Value} {members : List (String × Value)}
    {member : String × Value}
    (written : member ∈ Members.put name value members) :
    member = (name, value) ∨ member ∈ members := by
  induction members with
  | nil => exact .inl (List.mem_singleton.mp written)
  | cons first rest hypothesis =>
      obtain ⟨other, held⟩ := first
      unfold Members.put at written
      split at written
      case isTrue =>
        rcases List.mem_cons.mp written with equality | behind
        · exact .inl equality
        · exact .inr (List.mem_cons_of_mem _ behind)
      case isFalse =>
        rcases List.mem_cons.mp written with equality | behind
        · exact .inr (equality ▸ List.mem_cons_self)
        · exact (hypothesis behind).imp id (List.mem_cons_of_mem _)

theorem Distinct.put
    {name : String} {value : Value} {members : List (String × Value)}
    (distinct : (Value.object members).Distinct) (valueDistinct : value.Distinct) :
    (Value.object (Members.put name value members)).Distinct := by
  cases distinct with
  | object names each =>
      apply Distinct.object
      · rw [map_fst_put]
        split
        case isTrue => exact names
        case isFalse fresh =>
          exact (List.perm_append_singleton name _).nodup_iff.mpr
            (List.nodup_cons.mpr ⟨fresh, names⟩)
      · intro member written
        rcases mem_put written with rfl | held
        · exact valueDistinct
        · exact each member held

/-- Objects that are written member by member hold no name twice. -/
theorem distinct_ofMembers
    {members : List (String × Value)}
    (each : ∀ member ∈ members, member.2.Distinct) :
    (ofMembers members).Distinct := by
  have written (before : List (String × Value))
      (distinct : (Value.object before).Distinct) :
      (Value.object (members.foldl
        (fun members next => Members.put next.1 next.2 members) before)).Distinct := by
    induction members generalizing before with
    | nil => exact distinct
    | cons member rest hypothesis =>
        obtain ⟨valueDistinct, restDistinct⟩ := List.forall_mem_cons.mp each
        exact hypothesis restDistinct _ (distinct.put valueDistinct)
  exact written [] (.object List.nodup_nil (by simp))

/-! ## Members of objects -/

theorem lookup_eq_some_iff_mem
    {members : List (String × Value)}
    (names : (members.map Prod.fst).Nodup)
    (name : String) (value : Value) :
    members.lookup name = some value ↔ (name, value) ∈ members := by
  induction members with
  | nil => simp
  | cons first rest hypothesis =>
      obtain ⟨other, held⟩ := first
      obtain ⟨fresh, restNames⟩ := List.nodup_cons.mp names
      rw [List.lookup_cons, List.mem_cons, ← hypothesis restNames]
      by_cases equality : name = other
      · subst equality
        have absent : rest.lookup name ≠ some value := fun found =>
          fresh (List.mem_map.mpr ⟨_, (hypothesis restNames).mp found, rfl⟩)
        simp [absent, eq_comm]
      · simp [beq_false_of_ne equality, equality]

theorem sameMembers_iff
    (left : List (String × Value)) {right : List (String × Value)}
    (names : (right.map Prod.fst).Nodup) :
    sameMembers left right = true ↔
      ∀ member ∈ left, ∃ other, (member.1, other) ∈ right ∧ same member.2 other := by
  induction left with
  | nil => simp [sameMembers]
  | cons first rest hypothesis =>
      obtain ⟨name, value⟩ := first
      rw [sameMembers, Bool.and_eq_true, hypothesis, List.forall_mem_cons]
      simp only [← lookup_eq_some_iff_mem names]
      cases right.lookup name with
      | none => simp
      | some other => simp

theorem same_object_iff
    (left : List (String × Value)) {right : List (String × Value)}
    (names : (right.map Prod.fst).Nodup) :
    same (.object left) (.object right) = true ↔
      left.length = right.length ∧
        ∀ member ∈ left, ∃ other, (member.1, other) ∈ right ∧ same member.2 other := by
  rw [same, Bool.and_eq_true, beq_iff_eq, sameMembers_iff left names]

/-- Objects of one size have the same names when one has all names of the other. -/
theorem names_perm
    {left right : List (String × Value)}
    (names : (left.map Prod.fst).Nodup)
    (size : left.length = right.length)
    (found : ∀ member ∈ left, ∃ other, (member.1, other) ∈ right ∧ same member.2 other) :
    (left.map Prod.fst).Perm (right.map Prod.fst) := by
  have included : left.map Prod.fst ⊆ right.map Prod.fst := by
    intro name listed
    obtain ⟨member, held, rfl⟩ := List.mem_map.mp listed
    obtain ⟨other, present, -⟩ := found member held
    exact List.mem_map.mpr ⟨_, present, rfl⟩
  refine (names.subperm included).perm_of_length_le ?_
  rw [List.length_map, List.length_map]
  exact Nat.le_of_eq size.symm

/-! ## Symmetry and transitivity -/

theorem sameItems_symm
    {left right : List Value}
    (each : ∀ first ∈ left, ∀ second ∈ right, same first second → same second first)
    (agree : sameItems left right) :
    sameItems right left := by
  induction left generalizing right with
  | nil =>
      cases right with
      | nil => exact agree
      | cons _ _ => simp [sameItems] at agree
  | cons item rest hypothesis =>
      cases right with
      | nil => simp [sameItems] at agree
      | cons other more =>
          rw [sameItems, Bool.and_eq_true] at agree ⊢
          exact ⟨each item (by simp) other (by simp) agree.1,
            hypothesis (fun first held second present =>
              each first (by simp [held]) second (by simp [present])) agree.2⟩

theorem sameItems_trans
    {left middle right : List Value}
    (each : ∀ first ∈ left, ∀ second ∈ middle, ∀ third ∈ right,
      same first second → same second third → same first third)
    (former : sameItems left middle) (latter : sameItems middle right) :
    sameItems left right := by
  induction left generalizing middle right with
  | nil =>
      cases middle with
      | nil => exact latter
      | cons _ _ => simp [sameItems] at former
  | cons item rest hypothesis =>
      cases middle with
      | nil => simp [sameItems] at former
      | cons between others =>
          cases right with
          | nil => simp [sameItems] at latter
          | cons last more =>
              rw [sameItems, Bool.and_eq_true] at former latter ⊢
              exact ⟨each item (by simp) between (by simp) last (by simp) former.1 latter.1,
                hypothesis (fun first held second passed third present =>
                  each first (by simp [held]) second (by simp [passed]) third (by simp [present]))
                  former.2 latter.2⟩

theorem same_symm
    {left right : Value}
    (leftDistinct : left.Distinct) (rightDistinct : right.Distinct)
    (agree : same left right) :
    same right left := by
  induction leftDistinct generalizing right with
  | null =>
      cases rightDistinct with
      | null => exact agree
      | _ => simp [same] at agree
  | bool truth =>
      cases rightDistinct with
      | bool other =>
          rw [same, beq_iff_eq] at agree ⊢
          exact agree.symm
      | _ => simp [same] at agree
  | number quantity =>
      cases rightDistinct with
      | number other =>
          rw [same, Number.same_iff_identity] at agree ⊢
          exact agree.symm
      | _ => simp [same] at agree
  | text content =>
      cases rightDistinct with
      | text other =>
          rw [same, beq_iff_eq] at agree ⊢
          exact agree.symm
      | _ => simp [same] at agree
  | array each hypothesis =>
      cases rightDistinct with
      | array eachRight =>
          rw [same] at agree ⊢
          exact sameItems_symm (fun first held second present =>
            hypothesis first held (eachRight second present)) agree
      | _ => simp [same] at agree
  | object names each hypothesis =>
      cases rightDistinct with
      | object namesRight eachRight =>
          rw [same_object_iff _ namesRight] at agree
          obtain ⟨size, found⟩ := agree
          have permuted := names_perm names size found
          refine (same_object_iff _ names).mpr ⟨size.symm, fun member present => ?_⟩
          obtain ⟨name, stored⟩ := member
          have listed := permuted.symm.subset (List.mem_map_of_mem present)
          obtain ⟨⟨_, value⟩, held, rfl⟩ := List.mem_map.mp listed
          obtain ⟨other, listedOther, agree⟩ := found _ held
          -- The name leads to one value only, so what was found is what is stored.
          have foundOther := (lookup_eq_some_iff_mem namesRight _ other).mpr listedOther
          have foundStored := (lookup_eq_some_iff_mem namesRight _ stored).mpr present
          cases foundOther.symm.trans foundStored
          exact ⟨value, held, hypothesis _ held (eachRight _ present) agree⟩
      | _ => simp [same] at agree

theorem same_trans
    {left middle right : Value}
    (leftDistinct : left.Distinct) (middleDistinct : middle.Distinct)
    (rightDistinct : right.Distinct)
    (former : same left middle) (latter : same middle right) :
    same left right := by
  induction leftDistinct generalizing middle right with
  | null =>
      cases middleDistinct with
      | null => exact latter
      | _ => simp [same] at former
  | bool truth =>
      cases middleDistinct with
      | bool _ =>
          rw [same, beq_iff_eq] at former
          exact former ▸ latter
      | _ => simp [same] at former
  | number quantity =>
      cases middleDistinct with
      | number _ =>
          cases rightDistinct with
          | number _ =>
              rw [same, Number.same_iff_identity] at former latter ⊢
              exact former.trans latter
          | _ => simp [same] at latter
      | _ => simp [same] at former
  | text content =>
      cases middleDistinct with
      | text _ =>
          rw [same, beq_iff_eq] at former
          exact former ▸ latter
      | _ => simp [same] at former
  | array each hypothesis =>
      cases middleDistinct with
      | array eachMiddle =>
          cases rightDistinct with
          | array eachRight =>
              rw [same] at former latter ⊢
              exact sameItems_trans (fun first held second passed third present =>
                hypothesis first held (eachMiddle second passed) (eachRight third present))
                former latter
          | _ => simp [same] at latter
      | _ => simp [same] at former
  | object names each hypothesis =>
      cases middleDistinct with
      | object namesMiddle eachMiddle =>
          cases rightDistinct with
          | object namesRight eachRight =>
              rw [same_object_iff _ namesMiddle] at former
              rw [same_object_iff _ namesRight] at latter ⊢
              refine ⟨former.1.trans latter.1, fun member held => ?_⟩
              obtain ⟨between, passed, agree⟩ := former.2 member held
              obtain ⟨last, present, agreeNext⟩ := latter.2 _ passed
              exact ⟨last, present, hypothesis member held (eachMiddle _ passed)
                (eachRight _ present) agree agreeNext⟩
          | _ => simp [same] at latter
      | _ => simp [same] at former

end Value

end Stencil
