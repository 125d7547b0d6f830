import Stencil.TagTable.Document

/-!
# Reading after writing

Writing at a location changes a document in the same way at every level: one
child is written, and the container may be replaced by one of the kind that the
segment asks for or be padded.  So a write is seen at its location and below,
it leaves the locations beside it alone, and it leaves nothing where another
kind of container would be needed.
-/

namespace Stencil

/-! ## How locations part -/

namespace Segment

/-- Whether two segments ask for one kind of container. -/
def sameKind : Segment → Segment → Bool
  | .member _, .member _ | .index _, .index _ => true
  | _, _ => false

/-- Two names of one object, or two indices of one array. -/
def Siblings (left right : Segment) : Prop :=
  left.sameKind right = true ∧ left ≠ right

/-- A name and an index, which no one container has. -/
def Clash (left right : Segment) : Prop :=
  left.sameKind right = false

instance : DecidableRel Siblings :=
  fun left right => inferInstanceAs (Decidable (_ ∧ left ≠ right))

instance : DecidableRel Clash :=
  fun left right => inferInstanceAs (Decidable (left.sameKind right = false))

theorem Siblings.symm
    {left right : Segment}
    (siblings : Siblings left right) :
    Siblings right left := by
  rcases siblings with ⟨kind, distinct⟩
  cases left <;> cases right <;> exact ⟨kind, distinct.symm⟩

/-- Siblings are two different names or two different indices. -/
theorem Siblings.names_or_indices
    {left right : Segment}
    (siblings : Siblings left right) :
    (∃ name other,
        left = .member name ∧ right = .member other ∧ name ≠ other) ∨
      ∃ position other,
        left = .index position ∧ right = .index other ∧ position ≠ other := by
  rcases siblings with ⟨kind, distinct⟩
  cases left with
  | member name =>
      cases right with
      | member other =>
          exact .inl ⟨name, other, rfl, rfl, fun same => distinct (congrArg member same)⟩
      | index other => cases kind
  | index position =>
      cases right with
      | member other => cases kind
      | index other =>
          exact .inr ⟨position, other, rfl, rfl, fun same => distinct (congrArg index same)⟩

theorem Clash.symm
    {left right : Segment}
    (clash : Clash left right) :
    Clash right left := by
  cases left <;> cases right <;> exact clash

theorem eq_or_siblings_or_clash (left right : Segment) :
    left = right ∨ Siblings left right ∨ Clash left right := by
  by_cases equal : left = right
  · exact Or.inl equal
  · cases kind : left.sameKind right with
    | true => exact Or.inr (Or.inl ⟨kind, equal⟩)
    | false => exact Or.inr (Or.inr kind)

end Segment

namespace Location

/-- Locations that agree up to two segments, which differ in a given way. -/
inductive Part (differ : Segment → Segment → Prop) : Location → Location → Prop where
  | here
      {left right : Segment} {rest behind : Location}
      (apart : differ left right) :
      Part differ (left :: rest) (right :: behind)
  | later
      {segment : Segment} {rest behind : Location}
      (part : Part differ rest behind) :
      Part differ (segment :: rest) (segment :: behind)

theorem part_cons_iff
    {differ : Segment → Segment → Prop}
    {left right : Segment} {rest behind : Location} :
    Part differ (left :: rest) (right :: behind) ↔
      differ left right ∨ (left = right ∧ Part differ rest behind) := by
  constructor
  · intro part
    cases part with
    | here apart => exact Or.inl apart
    | later part => exact Or.inr ⟨rfl, part⟩
  · rintro (apart | ⟨rfl, part⟩)
    · exact .here apart
    · exact .later part

instance decidablePart
    (differ : Segment → Segment → Prop) [DecidableRel differ] :
    (left right : Location) → Decidable (Part differ left right)
  | [], _ => isFalse nofun
  | _ :: _, [] => isFalse nofun
  | _ :: rest, _ :: behind =>
    have : Decidable (Part differ rest behind) :=
      decidablePart differ rest behind
    decidable_of_iff _ part_cons_iff.symm

/-- Locations that part at two names of one object or two indices of one array. -/
abbrev Beside : Location → Location → Prop :=
  Part Segment.Siblings

/-- Locations that part at a name and an index. -/
abbrev Clashing : Location → Location → Prop :=
  Part Segment.Clash

/-- One of two locations leads to the other, or they part in one of two ways. -/
theorem prefix_or_part (left right : Location) :
    (left <+: right ∨ right <+: left) ∨
      Beside left right ∨ Clashing left right := by
  induction left generalizing right with
  | nil => exact Or.inl (Or.inl List.nil_prefix)
  | cons segment left ih =>
      cases right with
      | nil => exact Or.inl (Or.inr List.nil_prefix)
      | cons other right =>
          rcases segment.eq_or_siblings_or_clash other with
            rfl | siblings | clash
          · rcases ih right with (down | up) | beside | clashing
            · exact Or.inl (Or.inl (List.cons_prefix_cons.mpr ⟨rfl, down⟩))
            · exact Or.inl (Or.inr (List.cons_prefix_cons.mpr ⟨rfl, up⟩))
            · exact Or.inr (Or.inl (.later beside))
            · exact Or.inr (Or.inr (.later clashing))
          · exact Or.inr (Or.inl (.here siblings))
          · exact Or.inr (Or.inr (.here clash))

end Location

namespace Value

/-! ## One level -/

/-- The child of a value that a segment leads to. -/
def child? (value : Value) : Segment → Option Value
  | .member name => value.member? name
  | .index position => value.item? position

theorem at?_cons (value : Value) (segment : Segment) (rest : Location) :
    value.at? (segment :: rest) =
      (value.child? segment).bind fun child => child.at? rest := by
  cases segment with
  | member name => rfl
  | index position => rfl

@[simp]
theorem membersOrNone_object (members : List (String × Value)) :
    (Value.object members).membersOrNone = members :=
  rfl

@[simp]
theorem itemsOrNone_array (items : List Value) :
    (Value.array items).itemsOrNone = items :=
  rfl

theorem member?_eq_lookup (value : Value) (name : String) :
    value.member? name = value.membersOrNone.lookup name := by
  cases value with
  | object members => rfl
  | _ => rfl

theorem item?_eq_getElem? (value : Value) (position : Nat) :
    value.item? position = value.itemsOrNone[position]? := by
  cases value with
  | array items => rfl
  | _ => rfl

theorem length_padTo (position : Nat) (items : List Value) :
    (padTo position items).length = max items.length (position + 1) := by
  rw [padTo, List.length_append, List.length_replicate]
  omega

/-- Padding leaves the items alone and puts nulls behind them, up to the index. -/
theorem getElem?_padTo (position other : Nat) (items : List Value) :
    (padTo position items)[other]? =
      if other < items.length then items[other]?
      else if other ≤ position then some .null
      else none := by
  by_cases inside : other < items.length
  · simp [padTo, List.getElem?_append_left, inside]
  · rw [padTo, List.getElem?_append_right (Nat.le_of_not_lt inside),
      List.getElem?_replicate, if_neg inside]
    by_cases padding : other ≤ position
    · rw [if_pos padding, if_pos (by omega)]
    · rw [if_neg padding, if_neg (by omega)]

/-- What is found after a write beside it: the same as before, or a null in a gap. -/
def SameOrGap (before after : Option Value) : Prop :=
  after = before ∨ (before = none ∧ after = some .null)

theorem child?_put_self
    (document : Value) (segment : Segment) (rest : Location) (value : Value) :
    (document.put (segment :: rest) value).child? segment =
      some (((document.child? segment).getD .null).put rest value) := by
  cases segment with
  | member name =>
      simp only [child?, put, member?_eq_lookup, membersOrNone_object,
        Members.lookup_put_self]
  | index position =>
      have room : position < (padTo position document.itemsOrNone).length := by
        rw [length_padTo]
        omega
      have child :
          ((padTo position document.itemsOrNone)[position]?).getD .null =
            (document.itemsOrNone[position]?).getD .null := by
        rw [getElem?_padTo]
        split
        · rfl
        · next outside => simp [List.getElem?_eq_none (Nat.le_of_not_lt outside)]
      simp only [child?, put, item?_eq_getElem?, itemsOrNone_array]
      rw [List.getElem?_set_self room, child]

/-- Another name of the object keeps what it leads to. -/
theorem child?_put_member_of_ne
    {name other : String}
    (distinct : other ≠ name)
    (document : Value) (rest : Location) (value : Value) :
    (document.put (.member name :: rest) value).child? (.member other) =
      document.child? (.member other) := by
  simp only [child?, put, member?_eq_lookup, membersOrNone_object]
  exact Members.lookup_put_of_ne distinct _ _

/-- Another index keeps what it leads to, except that a gap in front of the write is padded. -/
theorem child?_put_index_of_ne
    {position other : Nat}
    (distinct : other ≠ position)
    (document : Value) (rest : Location) (value : Value) :
    (document.put (.index position :: rest) value).child? (.index other) =
      if other < document.itemsOrNone.length ∨ position < other then
        document.child? (.index other)
      else some .null := by
  simp only [child?, put, item?_eq_getElem?, itemsOrNone_array]
  rw [List.getElem?_set_ne (Ne.symm distinct), getElem?_padTo]
  by_cases inside : other < document.itemsOrNone.length
  · rw [if_pos inside, if_pos (Or.inl inside)]
  · have absent : document.itemsOrNone[other]? = none :=
      List.getElem?_eq_none (Nat.le_of_not_lt inside)
    rw [if_neg inside, absent]
    by_cases beyond : position < other
    · rw [if_neg (Nat.not_le_of_lt beyond), if_pos (Or.inr beyond)]
    · have padded : ¬(other < document.itemsOrNone.length ∨ position < other) := by
        simp [inside, beyond]
      rw [if_pos (Nat.le_of_not_lt beyond), if_neg padded]

theorem child?_put_of_siblings
    {segment other : Segment}
    (siblings : Segment.Siblings other segment)
    (document : Value) (rest : Location) (value : Value) :
    SameOrGap (document.child? other)
      ((document.put (segment :: rest) value).child? other) := by
  rcases siblings.names_or_indices with
    ⟨otherName, name, rfl, rfl, names⟩ | ⟨otherPosition, position, rfl, rfl, positions⟩
  · exact Or.inl (child?_put_member_of_ne names document rest value)
  · rw [child?_put_index_of_ne positions]
    split
    · exact Or.inl rfl
    · next gap =>
        have absent : document.itemsOrNone[otherPosition]? = none :=
          List.getElem?_eq_none
            (Nat.le_of_not_lt fun inside => gap (Or.inl inside))
        right
        exact ⟨by rw [child?, item?_eq_getElem?, absent], rfl⟩

theorem child?_put_of_clash
    {segment other : Segment}
    (clash : Segment.Clash other segment)
    (document : Value) (rest : Location) (value : Value) :
    (document.put (segment :: rest) value).child? other = none := by
  cases segment with
  | member name =>
      cases other with
      | member otherName => cases clash
      | index otherPosition => rfl
  | index position =>
      cases other with
      | member otherName => rfl
      | index otherPosition => cases clash

/-! ## Whole locations -/

/-- At the location written and below it, the value written is read. -/
theorem at?_put_append
    (document : Value) (location : Location) (value : Value) (rest : Location) :
    (document.put location value).at? (location ++ rest) = value.at? rest := by
  induction location generalizing document with
  | nil => rfl
  | cons segment location ih =>
      rw [List.cons_append, at?_cons, child?_put_self]
      exact ih _

@[simp]
theorem at?_put_self
    (document : Value) (location : Location) (value : Value) :
    (document.put location value).at? location = some value := by
  simpa using at?_put_append document location value []

theorem null_at?_of_part
    {differ : Segment → Segment → Prop}
    {location other : Location}
    (part : Location.Part differ location other) :
    Value.null.at? location = none := by
  cases part with
  | here apart => rename_i left _ _ _; cases left <;> rfl
  | later part => rename_i segment _ _; cases segment <;> rfl

/-- A write leaves what it finds beside its location, and may only fill gaps with nulls. -/
theorem at?_put_of_beside
    {location other : Location}
    (beside : Location.Beside other location)
    (document value : Value) :
    SameOrGap (document.at? other)
      ((document.put location value).at? other) := by
  induction beside generalizing document with
  | @here other segment otherRest rest siblings =>
      rw [at?_cons, at?_cons]
      rcases child?_put_of_siblings siblings document rest value with
        same | ⟨absent, gap⟩
      · rw [same]
        exact Or.inl rfl
      · rw [absent, gap]
        cases otherRest with
        | nil => exact Or.inr ⟨rfl, rfl⟩
        | cons below otherRest =>
            left
            cases below <;> rfl
  | @later segment otherRest rest beside ih =>
      rw [at?_cons, at?_cons, child?_put_self]
      cases document.child? segment with
      | some child => exact ih child
      | none =>
          have filled := ih Value.null
          rw [null_at?_of_part beside] at filled
          exact filled

/-- Where another kind of container would be needed, a write leaves nothing. -/
theorem at?_put_of_clashing
    {location other : Location}
    (clashing : Location.Clashing other location)
    (document value : Value) :
    (document.put location value).at? other = none := by
  induction clashing generalizing document with
  | here clash =>
      rw [at?_cons, child?_put_of_clash clash]
      rfl
  | later clashing ih =>
      rw [at?_cons, child?_put_self]
      exact ih _

theorem at?_put_of_beside_of_some
    {location other : Location}
    (beside : Location.Beside other location)
    {document found : Value}
    (present : document.at? other = some found)
    (value : Value) :
    (document.put location value).at? other = some found := by
  rcases at?_put_of_beside beside document value with same | ⟨absent, _⟩
  · rw [same, present]
  · rw [present] at absent
    cases absent

end Value

end Stencil
