import Stencil.Proofs.Sorting
import Stencil.Proofs.Value.Reversal

/-!
# Where the order of documents is an order

Comparing documents is transitive from the types down to the items of arrays,
with two exceptions at the leaves.  Three numbers clash when two different
integers and a number outside the signed range have one double; three objects
of one size clash when two of them are the same, their texts are different and
the text of the third one is not outside of these.  A set of documents that
holds the items of its arrays is ordered exactly when no three of its documents
clash, and sorting is then well-defined up to ties.
-/

namespace Stencil

namespace Value

/-! ## Types and arrays -/

/-- Documents of one type. -/
inductive Alike : Value → Value → Prop where
  | null : Alike .null .null
  | bool (left right : Bool) : Alike (.bool left) (.bool right)
  | number (left right : Number) : Alike (.number left) (.number right)
  | text (left right : String) : Alike (.text left) (.text right)
  | array (left right : List Value) : Alike (.array left) (.array right)
  | object (left right : List (String × Value)) : Alike (.object left) (.object right)

theorem alike_of_typeRank_eq
    {left right : Value}
    (agree : left.typeRank = right.typeRank) :
    Alike left right := by
  cases left <;> cases right <;>
    first
    | constructor
    | exact absurd agree (by simp [typeRank])

theorem compare_of_typeRank_ne
    {left right : Value}
    (differ : left.typeRank ≠ right.typeRank) :
    left.compare right = Ord.compare left.typeRank right.typeRank := by
  cases left <;> cases right <;>
    first
    | rfl
    | exact absurd rfl differ

/-- What does not come behind is of no later type. -/
theorem typeRank_le_of_compare_ne_gt
    {left right : Value}
    (forward : left.compare right ≠ .gt) :
    left.typeRank ≤ right.typeRank := by
  by_cases agree : left.typeRank = right.typeRank
  · exact Nat.le_of_eq agree
  · rw [compare_of_typeRank_ne agree] at forward
    exact compare_le_iff_le.mp forward

theorem then_ne_gt_iff {head tail : Ordering} :
    head.then tail ≠ .gt ↔ head ≠ .gt ∧ (head = .eq → tail ≠ .gt) := by
  cases head <;> simp

/-- Arrays are ordered when their items are. -/
theorem ordersOn_compareItems
    {documents : Set Value}
    (orders : OrdersOn compare documents) :
    OrdersOn compareItems {items | ∀ item ∈ items, item ∈ documents} where
  swap left held right present := by
    apply compareItems_swap
    intro item itemHeld other otherPresent
    exact orders.swap item (held item itemHeld) other (present other otherPresent)
  trans first held second between third last left right := by
    induction first generalizing second third with
    | nil =>
        cases third with
        | nil => simp [compareItems]
        | cons _ _ => simp [compareItems]
    | cons item rest hypothesis =>
        cases second with
        | nil => exact absurd rfl left
        | cons middle others =>
            cases third with
            | nil => exact absurd rfl right
            | cons final more =>
                obtain ⟨itemHeld, restHeld⟩ := List.forall_mem_cons.mp held
                obtain ⟨middleBetween, othersBetween⟩ := List.forall_mem_cons.mp between
                obtain ⟨finalLast, moreLast⟩ := List.forall_mem_cons.mp last
                obtain ⟨leftHead, leftTail⟩ := then_ne_gt_iff.mp left
                obtain ⟨rightHead, rightTail⟩ := then_ne_gt_iff.mp right
                apply then_ne_gt_iff.mpr
                constructor
                · exact orders.trans item itemHeld middle middleBetween final finalLast
                    leftHead rightHead
                · intro level
                  -- Equal outer items leave no room, so the middle one equals both.
                  have backward : final.compare item ≠ .gt := by
                    simp [orders.symm itemHeld finalLast level]
                  have leftLevel : item.compare middle = .eq :=
                    orders.eq_of_ne_gt itemHeld middleBetween leftHead
                      (orders.trans middle middleBetween final finalLast item itemHeld
                        rightHead backward)
                  have rightLevel : middle.compare final = .eq :=
                    orders.eq_of_ne_gt middleBetween finalLast rightHead
                      (orders.trans final finalLast item itemHeld middle middleBetween
                        backward leftHead)
                  exact hypothesis restHeld others othersBetween more moreLast
                    (leftTail leftLevel) (rightTail rightLevel)

/-! ## Objects -/

/-- The order of two objects: the same, a smaller one, or a lesser text. -/
theorem compare_object_ne_gt_iff (left right : List (String × Value)) :
    (Value.object left).compare (.object right) ≠ .gt ↔
      same (.object left) (.object right) ∨ left.length < right.length ∨
        left.length = right.length ∧ compact (.object left) ≤ compact (.object right) := by
  rw [compare]
  split
  case isTrue agree => simp [agree]
  case isFalse differ =>
    rw [then_ne_gt_iff, compare_le_iff_le, compare_eq_iff_eq, compare_le_iff_le]
    grind

theorem same_object_length
    {left right : List (String × Value)}
    (agree : same (.object left) (.object right)) :
    left.length = right.length := by
  rw [same, Bool.and_eq_true, beq_iff_eq] at agree
  exact agree.1

/--
Documents on which the comparison is not transitive: three numbers that clash,
or two same objects with different texts and a third object of their size with
a text that is not outside of these.
-/
inductive Clash : Value → Value → Value → Prop where
  | numbers {greater outsider lesser : Number}
      (clash : Number.Clash greater outsider lesser) :
      Clash (.number greater) (.number outsider) (.number lesser)
  | objects {upper outsider lower : List (String × Value)}
      (twins : same (.object upper) (.object lower))
      (apart : ¬same (.object upper) (.object outsider))
      (size : outsider.length = upper.length)
      (different : compact (.object lower) ≠ compact (.object upper))
      (above : compact (.object lower) ≤ compact (.object outsider))
      (below : compact (.object outsider) ≤ compact (.object upper)) :
      Clash (.object upper) (.object outsider) (.object lower)

/-- Objects are ordered where the third one does not clash with two same ones. -/
theorem compare_object_trans
    {first second third : List (String × Value)}
    (firstDistinct : (Value.object first).Distinct)
    (secondDistinct : (Value.object second).Distinct)
    (thirdDistinct : (Value.object third).Distinct)
    (former : ¬Clash (.object first) (.object third) (.object second))
    (latter : ¬Clash (.object second) (.object first) (.object third))
    (left : (Value.object first).compare (.object second) ≠ .gt)
    (right : (Value.object second).compare (.object third) ≠ .gt) :
    (Value.object first).compare (.object third) ≠ .gt := by
  rw [compare_object_ne_gt_iff] at left right ⊢
  by_contra behind
  obtain ⟨apart, notSmaller, notLower⟩ : ¬same (.object first) (.object third) ∧
      ¬first.length < third.length ∧
      (first.length = third.length → ¬compact (.object first) ≤ compact (.object third)) := by
    simpa using behind
  rcases left with twins | smaller | ⟨size, lower⟩
  · have sizes := same_object_length twins
    rcases right with agree | smaller | ⟨size, lower⟩
    · exact apart (same_trans firstDistinct secondDistinct thirdDistinct twins agree)
    · omega
    · -- The first two are the same, and the text of the third lies between theirs.
      have higher := notLower (sizes.trans size)
      apply former
      exact .objects twins apart (sizes.trans size).symm
        (fun equal => higher (equal ▸ lower)) lower (le_of_not_ge higher)
  · rcases right with agree | further | ⟨size, lower⟩
    · have sizes := same_object_length agree
      omega
    · omega
    · omega
  · rcases right with twins | smaller | ⟨further, higher⟩
    · -- The last two are the same, and the text of the first lies between theirs.
      have higher := notLower (size.trans (same_object_length twins))
      have separate : ¬same (.object second) (.object first) := fun agree =>
        apart (same_trans firstDistinct secondDistinct thirdDistinct
          (same_symm secondDistinct firstDistinct agree) twins)
      apply latter
      exact .objects twins separate size
        (fun equal => higher (equal ▸ lower)) (le_of_not_ge higher) lower
    · omega
    · exact notLower (size.trans further) (lower.trans higher)

/-! ## Sets of documents -/

/-- No three documents of a set clash. -/
def Agree (documents : Set Value) : Prop :=
  ∀ first ∈ documents, ∀ second ∈ documents, ∀ third ∈ documents,
    ¬Clash first second third

variable {documents : Set Value}

/-- Documents that agree are ordered when the items of their arrays are. -/
theorem Agree.ordersOn_of_items
    {inner : Set Value}
    (apart : Agree documents)
    (distinct : ∀ document ∈ documents, document.Distinct)
    (items : ∀ items, .array items ∈ documents → ∀ item ∈ items, item ∈ inner)
    (orders : OrdersOn compare inner) :
    OrdersOn compare documents where
  swap left held right present := compare_swap (distinct left held) (distinct right present)
  trans first held second between third last left right := by
    have lower := typeRank_le_of_compare_ne_gt left
    have upper := typeRank_le_of_compare_ne_gt right
    rcases (lower.trans upper).lt_or_eq with before | agree
    · rw [compare_of_typeRank_ne before.ne]
      exact compare_le_iff_le.mpr before.le
    · have former := alike_of_typeRank_eq (lower.antisymm (agree ▸ upper))
      have latter := alike_of_typeRank_eq (upper.antisymm (agree ▸ lower))
      cases former with
      | null =>
          cases latter with
          | null => exact left
      | bool first second =>
          cases latter with
          | bool second third =>
              exact (OrdersOn.of_linearOrder Set.univ).trans first trivial second trivial
                third trivial left right
      | number first second =>
          cases latter with
          | number second third =>
              intro behind
              exact apart _ held _ between _ last
                (.numbers ((Number.clash_iff _ _ _).mpr ⟨left, right, behind⟩))
      | text first second =>
          cases latter with
          | text second third =>
              exact (OrdersOn.of_linearOrder Set.univ).trans first trivial second trivial
                third trivial left right
      | array first second =>
          cases latter with
          | array second third =>
              exact (ordersOn_compareItems orders).trans first (items first held)
                second (items second between) third (items third last) left right
      | object first second =>
          cases latter with
          | object second third =>
              exact compare_object_trans (distinct _ held) (distinct _ between)
                (distinct _ last) (apart _ held _ last _ between)
                (apart _ between _ held _ last) left right

/--
Documents that agree are ordered, with the items of their arrays among them.
The induction is on the size of the documents.
-/
theorem Agree.ordersOn
    (apart : Agree documents)
    (distinct : ∀ document ∈ documents, document.Distinct)
    (nested : ∀ items, .array items ∈ documents → ∀ item ∈ items, item ∈ documents) :
    OrdersOn compare documents := by
  have upTo (size : Nat) :
      OrdersOn compare {document | document ∈ documents ∧ sizeOf document < size} := by
    induction size with
    | zero =>
        exact ⟨fun _ held => absurd held.2 (Nat.not_lt_zero _),
          fun _ held => absurd held.2 (Nat.not_lt_zero _)⟩
    | succ size hypothesis =>
        have within : Agree {document | document ∈ documents ∧ sizeOf document < size + 1} :=
          fun first held second between third last =>
            apart first held.1 second between.1 third last.1
        refine within.ordersOn_of_items (fun document held => distinct document held.1)
          ?_ hypothesis
        intro items held item member
        have smaller : sizeOf item < sizeOf (Value.array items) := by
          have inside := List.sizeOf_lt_of_mem member
          rw [array.sizeOf_spec]
          omega
        exact ⟨nested items held.1 item member, smaller.trans_le (Nat.le_of_lt_succ held.2)⟩
  constructor
  · intro left held right present
    exact compare_swap (distinct left held) (distinct right present)
  · intro first held second between third last
    exact (upTo (sizeOf first + sizeOf second + sizeOf third + 1)).trans
      first ⟨held, by omega⟩ second ⟨between, by omega⟩ third ⟨last, by omega⟩

/-- Documents that are compared transitively agree. -/
theorem agree_of_trans
    (distinct : ∀ document ∈ documents, document.Distinct)
    (transitive : ∀ first ∈ documents, ∀ second ∈ documents, ∀ third ∈ documents,
      first.compare second ≠ .gt → second.compare third ≠ .gt → first.compare third ≠ .gt) :
    Agree documents := by
  intro first held second between third last clash
  cases clash with
  | @numbers greater outsider lesser clash =>
      obtain ⟨left, right, behind⟩ := (Number.clash_iff greater outsider lesser).mp clash
      exact transitive _ held _ between _ last left right behind
  | @objects upper outsider lower twins apart size different above below =>
      have sizes := same_object_length twins
      have level : (Value.object upper).compare (.object lower) ≠ .gt :=
        (compare_object_ne_gt_iff upper lower).mpr (.inl twins)
      rcases below.lt_or_eq with under | equal
      · -- The text of the third object is below the upper one of the two.
        have ascending : (Value.object lower).compare (.object outsider) ≠ .gt :=
          (compare_object_ne_gt_iff lower outsider).mpr
            (.inr (.inr ⟨(size.trans sizes).symm, above⟩))
        have forward := transitive _ held _ last _ between level ascending
        rcases (compare_object_ne_gt_iff upper outsider).mp forward with
          agree | smaller | ⟨_, higher⟩
        · exact apart agree
        · omega
        · exact under.not_ge higher
      · -- The third object has the upper text itself and is not the same as the lower one.
        have ascending : (Value.object outsider).compare (.object upper) ≠ .gt :=
          (compare_object_ne_gt_iff outsider upper).mpr (.inr (.inr ⟨size, below⟩))
        have forward := transitive _ between _ held _ last ascending level
        rcases (compare_object_ne_gt_iff outsider lower).mp forward with
          agree | smaller | ⟨_, higher⟩
        · exact apart (same_trans (distinct _ held) (distinct _ last) (distinct _ between) twins
            (same_symm (distinct _ between) (distinct _ last) agree))
        · omega
        · exact different (le_antisymm (above.trans below) (equal ▸ higher))

end Value

/-! ## Sorting documents by a field -/

/-- Sorting by a field orders the items whose keys are ordered. -/
theorem OrdersOn.fieldOrder
    {documents : Set Value}
    (orders : OrdersOn Value.compare documents) (order : FieldOrder) :
    OrdersOn order.compare (Set.preimage order.key documents) := by
  unfold FieldOrder.compare
  cases order.descending with
  | false => exact orders.comap order.key
  | true => exact (orders.comap order.key).reverse

/-- The items sorted by a field are ascending, and so is no other sequence of them up to ties. -/
structure FieldOrder.SortsUpToTies (order : FieldOrder) (items : List Value) : Prop where
  /-- No item comes behind a later one. -/
  ascending : (sorted order.compare items).Pairwise fun earlier later =>
    order.compare earlier later ≠ .gt
  /-- Other ascending sequences of the items compare equal to the result place by place. -/
  unique : ∀ others : List Value, others.Perm items →
    others.Pairwise (fun earlier later => order.compare earlier later ≠ .gt) →
    List.Forall₂ (fun left right => order.compare left right = .eq)
      (sorted order.compare items) others

theorem OrdersOn.sortsUpToTies
    {documents : Set Value}
    (orders : OrdersOn Value.compare documents) (order : FieldOrder)
    {items : List Value} (keys : ∀ item ∈ items, order.key item ∈ documents) :
    order.SortsUpToTies items where
  ascending := (orders.fieldOrder order).pairwise_sorted keys
  unique others same ascending := by
    have all := sorted_perm order.compare items
    exact (orders.fieldOrder order).ties_of_perm
      (fun item member => keys item (all.subset member)) (all.trans same.symm)
      ((orders.fieldOrder order).pairwise_sorted keys) ascending

namespace Value

/--
Documents without repeated names, with the items of their arrays among them, are
compared transitively exactly when no three of them clash.  Equality is then an
equivalence on them, and sorting items by a field that holds some of them is
well-defined up to ties.
-/
theorem compare_trans_iff_agree
    {documents : Set Value}
    (distinct : ∀ document ∈ documents, document.Distinct)
    (nested : ∀ items, .array items ∈ documents → ∀ item ∈ items, item ∈ documents) :
    ((∀ first ∈ documents, ∀ second ∈ documents, ∀ third ∈ documents,
        first.compare second ≠ .gt → second.compare third ≠ .gt →
          first.compare third ≠ .gt) ↔
      Agree documents) ∧
    (Agree documents →
      Equivalence (fun left right : documents => left.val.compare right.val = .eq) ∧
      ∀ (order : FieldOrder) (items : List Value),
        (∀ item ∈ items, order.key item ∈ documents) → order.SortsUpToTies items) := by
  refine ⟨⟨agree_of_trans distinct, fun apart => (apart.ordersOn distinct nested).trans⟩, ?_⟩
  intro apart
  have orders := apart.ordersOn distinct nested
  constructor
  · constructor
    · exact fun document => orders.refl document.property
    · exact fun equal => orders.symm (Subtype.property _) (Subtype.property _) equal
    · exact fun former latter => orders.eq_trans (Subtype.property _) (Subtype.property _)
        (Subtype.property _) former latter
  · exact fun order items keys => orders.sortsUpToTies order keys

/-- One as an integer, as a double, and the array of both. -/
def ones : Set Value :=
  {.number (.ofInt 1), .number (.double (Binary64.ofInt 1)),
    .array [.number (.ofInt 1), .number (.double (Binary64.ofInt 1))]}

/-- Only one integer is among the ones, and it does not exceed itself. -/
theorem agree_ones : Agree ones := by
  have signed {number : Number} {value : Int}
      (held : Value.number number ∈ ones)
      (found : number.toSigned? = some value) : value = 1 := by
    rcases held with held | held | held
    · cases held
      exact (Option.some.inj found).symm
    · cases held
      cases found
    · cases held
  rintro first held second between third last (⟨clash⟩ | _)
  · obtain ⟨high, low, greater, lesser, exceeds⟩ := clash.exceeds
    have upper := signed held greater
    have lower := signed last lesser
    omega
  · rcases held with held | held | held
    · cases held
    · cases held
    · cases held

/-- Equality is an equivalence on the ones, and arrays of ones are sorted by their first item. -/
theorem compare_trans_ones :
    Equivalence (fun left right : ones => left.val.compare right.val = .eq) ∧
      FieldOrder.SortsUpToTies { name := "0" }
        [.array [.number (.ofInt 1)], .array [.number (.double (Binary64.ofInt 1))]] := by
  have distinct : ∀ document ∈ ones, document.Distinct := by
    rintro document (rfl | rfl | rfl)
    · exact .number _
    · exact .number _
    · refine .array fun item member => ?_
      rcases List.mem_pair.mp member with rfl | rfl
      · exact .number _
      · exact .number _
  have nested : ∀ items, .array items ∈ ones → ∀ item ∈ items, item ∈ ones := by
    rintro items (held | held | held)
    · cases held
    · cases held
    · cases held
      intro item member
      rcases List.mem_pair.mp member with rfl | rfl
      · exact .inl rfl
      · exact .inr (.inl rfl)
  have ordered := (compare_trans_iff_agree distinct nested).2 agree_ones
  refine ⟨ordered.1, ordered.2 _ _ fun item member => ?_⟩
  rcases List.mem_pair.mp member with rfl | rfl
  · exact .inl rfl
  · exact .inr (.inl rfl)

/-- An integer beyond the exact doubles, the double below it, and the integer of that double. -/
theorem compare_not_trans :
    (ofInt 9007199254740993).compare
        (.number (.double (Binary64.ofInt 9007199254740992))) ≠ .gt ∧
      (Value.number (.double (Binary64.ofInt 9007199254740992))).compare
        (ofInt 9007199254740992) ≠ .gt ∧
      (ofInt 9007199254740993).compare (ofInt 9007199254740992) = .gt := by
  decide +kernel

end Value

end Stencil
