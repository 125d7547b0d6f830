import Mathlib.Data.List.Forall2
import Mathlib.Data.List.Nodup
import Mathlib.Data.Set.Basic
import Mathlib.Order.Compare
import Stencil.Sorting

/-!
# What sorting promises

An item only moves past items that it comes before, so any items among which
no one comes before another keep their sequence.  This holds of every
comparison and makes sorting stable.  That the result is in order needs more:
where a comparison is total and transitive, what is sorted never goes down, and
it is the only ascending sequence of the items up to those that compare equal.
With those in their places it is the only one, so that what follows for such a
comparison does not depend on how the items are sorted.
-/

namespace Stencil

variable {Item : Type} {order : Item → Item → Ordering}

theorem append_settle_perm (order : Item → Item → Ordering) (item : Item)
    (rest settled : List Item) :
    (rest ++ settle order item settled).Perm (item :: rest ++ settled) :=
  ((settle_perm order item settled).append_left rest).trans List.perm_middle

/-! ## Places that are kept -/

theorem filter_settle
    {keep : Item → Bool} {item : Item} {settled : List Item}
    (stays : ∀ last ∈ settled, keep item → keep last → order item last ≠ .lt) :
    (settle order item settled).filter keep = (item :: settled).filter keep := by
  induction settled with
  | nil => rfl
  | cons last rest hypothesis =>
      have tail := hypothesis fun other member => stays other (List.mem_cons_of_mem last member)
      unfold settle
      split
      case isFalse => rfl
      case isTrue moves =>
        -- An item moves past `last`, so at most one of the two is kept.
        cases kept : keep item with
        | false => simp [List.filter_cons, tail, kept]
        | true =>
            have dropped : keep last = false := by
              by_contra held
              exact stays last List.mem_cons_self kept (by simpa using held) moves
            simp [tail, kept, dropped]

theorem filter_foldl_settle
    {keep : Item → Bool} {items settled : List Item}
    (stays : ∀ item ∈ items ++ settled, ∀ last ∈ items ++ settled,
      keep item → keep last → order item last ≠ .lt) :
    (items.foldl (fun settled item => settle order item settled) settled).filter keep =
      (items.reverse ++ settled).filter keep := by
  induction items generalizing settled with
  | nil => rfl
  | cons item rest hypothesis =>
      have moved := append_settle_perm order item rest settled
      have tail := hypothesis fun first held second present =>
        stays first (moved.subset held) second (moved.subset present)
      have head : (settle order item settled).filter keep = (item :: settled).filter keep :=
        filter_settle fun last member => stays item (by simp) last (by simp [member])
      simp only [List.foldl_cons, tail, List.reverse_cons, List.append_assoc,
        List.singleton_append, List.filter_append, head]

/-- Items among which no one comes before another keep their sequence. -/
theorem filter_sorted
    {keep : Item → Bool} {items : List Item}
    (stays : ∀ item ∈ items, ∀ last ∈ items,
      keep item → keep last → order item last ≠ .lt) :
    (sorted order items).filter keep = items.filter keep := by
  rw [sorted, List.filter_reverse, filter_foldl_settle (by simpa using stays),
    List.append_nil, List.filter_reverse, List.reverse_reverse]

/-! ## Comparisons that move the same items -/

theorem settle_congr
    {other : Item → Item → Ordering} {item : Item} {settled : List Item}
    (agree : ∀ last ∈ settled, order item last = .lt ↔ other item last = .lt) :
    settle order item settled = settle other item settled := by
  induction settled with
  | nil => rfl
  | cons last rest hypothesis =>
      have tail := hypothesis fun next member => agree next (List.mem_cons_of_mem last member)
      simp only [settle, agree last List.mem_cons_self, tail]

theorem foldl_settle_congr
    {other : Item → Item → Ordering} {items settled : List Item}
    (agree : items.Pairwise fun earlier later =>
      order later earlier = .lt ↔ other later earlier = .lt)
    (agreeSettled : ∀ item ∈ items, ∀ last ∈ settled,
      order item last = .lt ↔ other item last = .lt) :
    items.foldl (fun settled item => settle order item settled) settled =
      items.foldl (fun settled item => settle other item settled) settled := by
  induction items generalizing settled with
  | nil => rfl
  | cons item rest hypothesis =>
      have head := settle_congr (agreeSettled item List.mem_cons_self)
      simp only [List.foldl_cons, ← head]
      refine hypothesis agree.of_cons fun next member last held => ?_
      rcases List.mem_cons.mp ((settle_perm order item settled).subset held) with rfl | held
      · exact List.rel_of_pairwise_cons agree member
      · exact agreeSettled next (List.mem_cons_of_mem item member) last held

/--
Sorting only asks whether a later item comes before an earlier one, so two
comparisons that agree on this sort alike.
-/
theorem sorted_congr
    {other : Item → Item → Ordering} {items : List Item}
    (agree : items.Pairwise fun earlier later =>
      order later earlier = .lt ↔ other later earlier = .lt) :
    sorted order items = sorted other items :=
  congrArg List.reverse (foldl_settle_congr agree (by simp))

/-! ## Total and transitive comparisons -/

/-- A comparison that is total and transitive on the items of a domain. -/
structure OrdersOn (order : Item → Item → Ordering) (domain : Set Item) : Prop where
  /-- Comparing the other way round gives the opposite. -/
  swap : ∀ left ∈ domain, ∀ right ∈ domain, (order left right).swap = order right left
  /-- What does not come behind a second, nor that behind a third, is not behind the third. -/
  trans : ∀ first ∈ domain, ∀ second ∈ domain, ∀ third ∈ domain,
    order first second ≠ .gt → order second third ≠ .gt → order first third ≠ .gt

namespace OrdersOn

variable {domain : Set Item}

theorem of_linearOrder {Key : Type} [LinearOrder Key] (keys : Set Key) :
    OrdersOn (fun left right : Key => compare left right) keys where
  swap left _ right _ := by
    rw [← cmp_eq_compare, cmp_swap, cmp_eq_compare]
  trans _ _ _ _ _ _ left right :=
    compare_le_iff_le.mpr ((compare_le_iff_le.mp left).trans (compare_le_iff_le.mp right))

theorem comap
    {Other : Type} (orders : OrdersOn order domain) (key : Other → Item) :
    OrdersOn (fun left right => order (key left) (key right))
      (Set.preimage key domain) where
  swap left held right present := orders.swap (key left) held (key right) present
  trans first held second between third last :=
    orders.trans (key first) held (key second) between (key third) last

theorem reverse (orders : OrdersOn order domain) :
    OrdersOn (fun left right => order right left) domain where
  swap left held right present := orders.swap right present left held
  trans first held second between third last left right :=
    orders.trans third last second between first held right left

theorem ne_gt_of_ne_lt
    (orders : OrdersOn order domain)
    {left right : Item} (held : left ∈ domain) (present : right ∈ domain)
    (notBefore : order left right ≠ .lt) :
    order right left ≠ .gt := by
  rw [← orders.swap left held right present]
  exact fun behind => notBefore (Ordering.swap_eq_gt.mp behind)

theorem eq_of_ne_gt
    (orders : OrdersOn order domain)
    {left right : Item} (held : left ∈ domain) (present : right ∈ domain)
    (forward : order left right ≠ .gt) (backward : order right left ≠ .gt) :
    order left right = .eq := by
  rw [← orders.swap left held right present] at backward
  cases found : order left right with
  | lt => exact absurd (congrArg Ordering.swap found) backward
  | eq => rfl
  | gt => exact absurd found forward

theorem refl
    (orders : OrdersOn order domain)
    {item : Item} (held : item ∈ domain) :
    order item item = .eq :=
  Ordering.eq_eq_of_eq_swap (orders.swap item held item held).symm

theorem symm
    (orders : OrdersOn order domain)
    {left right : Item} (held : left ∈ domain) (present : right ∈ domain)
    (equal : order left right = .eq) :
    order right left = .eq := by
  rw [← orders.swap left held right present, equal]
  rfl

theorem eq_trans
    (orders : OrdersOn order domain)
    {first second third : Item}
    (held : first ∈ domain) (between : second ∈ domain) (last : third ∈ domain)
    (left : order first second = .eq) (right : order second third = .eq) :
    order first third = .eq := by
  have leftBack := orders.symm held between left
  have rightBack := orders.symm between last right
  refine orders.eq_of_ne_gt held last ?_ ?_
  · exact orders.trans first held second between third last (by simp [left]) (by simp [right])
  · exact orders.trans third last second between first held
      (by simp [rightBack]) (by simp [leftBack])

theorem pairwise_settle
    (orders : OrdersOn order domain)
    {item : Item} {settled : List Item}
    (held : item ∈ domain) (inside : ∀ last ∈ settled, last ∈ domain)
    (ascending : settled.Pairwise fun later earlier => order earlier later ≠ .gt) :
    (settle order item settled).Pairwise fun later earlier => order earlier later ≠ .gt := by
  induction settled with
  | nil => exact List.pairwise_singleton _ item
  | cons last rest hypothesis =>
      obtain ⟨lastInside, restInside⟩ := List.forall_mem_cons.mp inside
      unfold settle
      split
      case isTrue moves =>
        refine List.pairwise_cons.mpr ⟨fun earlier member => ?_, hypothesis restInside
          ascending.of_cons⟩
        rcases List.mem_cons.mp ((settle_perm order item rest).subset member) with rfl | member
        · simp [moves]
        · exact List.rel_of_pairwise_cons ascending member
      case isFalse stays =>
        have behind := orders.ne_gt_of_ne_lt held lastInside stays
        refine List.pairwise_cons.mpr ⟨fun earlier member => ?_, ascending⟩
        rcases List.mem_cons.mp member with rfl | member
        · exact behind
        · exact orders.trans earlier (restInside earlier member) last lastInside item held
            (List.rel_of_pairwise_cons ascending member) behind

theorem pairwise_foldl_settle
    (orders : OrdersOn order domain)
    {items settled : List Item}
    (inside : ∀ item ∈ items ++ settled, item ∈ domain)
    (ascending : settled.Pairwise fun later earlier => order earlier later ≠ .gt) :
    (items.foldl (fun settled item => settle order item settled) settled).Pairwise
      fun later earlier => order earlier later ≠ .gt := by
  induction items generalizing settled with
  | nil => exact ascending
  | cons item rest hypothesis =>
      have moved := append_settle_perm order item rest settled
      refine hypothesis (fun next member => inside next (moved.subset member)) ?_
      exact orders.pairwise_settle (inside item (by simp))
        (fun last member => inside last (by simp [member])) ascending

/-- What is sorted never goes down. -/
theorem pairwise_sorted
    (orders : OrdersOn order domain)
    {items : List Item} (inside : ∀ item ∈ items, item ∈ domain) :
    (sorted order items).Pairwise fun earlier later => order earlier later ≠ .gt :=
  List.pairwise_reverse.mpr
    (orders.pairwise_foldl_settle (by simpa using inside) List.Pairwise.nil)

/-- The items of a domain that do not come behind an item of it. -/
def upTo (order : Item → Item → Ordering) (domain : Set Item) (item : Item) : Set Item :=
  {other | other ∈ domain ∧ item ∈ domain ∧ order other item ≠ .gt}

theorem upTo_subset
    (orders : OrdersOn order domain)
    {left right : Item} (present : right ∈ domain)
    (forward : order left right ≠ .gt) :
    upTo order domain left ⊆ upTo order domain right := by
  rintro other ⟨inside, held, before⟩
  exact ⟨inside, present,
    orders.trans other inside left held right present before forward⟩

theorem eq_of_upTo_eq
    (orders : OrdersOn order domain)
    {left right : Item} (held : left ∈ domain)
    (level : upTo order domain left = upTo order domain right) :
    order left right = .eq := by
  have self {item : Item} (inside : item ∈ domain) : item ∈ upTo order domain item :=
    ⟨inside, inside, by simp [orders.refl inside]⟩
  obtain ⟨-, present, forward⟩ := level ▸ self held
  obtain ⟨-, -, backward⟩ := level ▸ self present
  exact orders.eq_of_ne_gt held present forward backward

theorem pairwise_map_upTo
    (orders : OrdersOn order domain)
    {items : List Item} (inside : ∀ item ∈ items, item ∈ domain)
    (ascending : items.Pairwise fun earlier later => order earlier later ≠ .gt) :
    (items.map (upTo order domain)).Pairwise (· ⊆ ·) := by
  refine List.pairwise_map.mpr (ascending.imp_of_mem ?_)
  intro earlier later _ member forward
  exact orders.upTo_subset (inside later member) forward

/--
Two ascending sequences of the same items compare equal place by place: what the
items are not behind is ascending by inclusion, which leaves only one sequence.
-/
theorem ties_of_perm
    (orders : OrdersOn order domain)
    {items others : List Item} (inside : ∀ item ∈ items, item ∈ domain)
    (same : items.Perm others)
    (ascending : items.Pairwise fun earlier later => order earlier later ≠ .gt)
    (othersAscending : others.Pairwise fun earlier later => order earlier later ≠ .gt) :
    List.Forall₂ (fun left right => order left right = .eq) items others := by
  have insideOthers : ∀ item ∈ others, item ∈ domain :=
    fun item member => inside item (same.symm.subset member)
  have aligned : items.map (upTo order domain) = others.map (upTo order domain) :=
    List.Perm.eq_of_pairwise (fun _ _ _ _ => Set.Subset.antisymm)
      (orders.pairwise_map_upTo inside ascending)
      (orders.pairwise_map_upTo insideOthers othersAscending)
      (same.map (upTo order domain))
  rw [← List.forall₂_eq_eq_eq, List.forall₂_map_left_iff, List.forall₂_map_right_iff]
    at aligned
  refine List.Forall₂.imp ?_ ((List.forall₂_and_left _ _).mpr ⟨inside, aligned⟩)
  exact fun left right pair => orders.eq_of_upTo_eq pair.1 pair.2

end OrdersOn

/-! ## Sorting, however it is done -/

/--
What is promised of a sorted sequence, however it is found: the items are there.
If the comparison is total and transitive on them, they are also in order, and
those that compare equal keep their sequence.
-/
structure Sorts (order : Item → Item → Ordering) (items result : List Item) : Prop where
  /-- Every item is there. -/
  perm : result.Perm items
  /-- No item is behind a later one. -/
  ascending : OrdersOn order {item | item ∈ items} →
    result.Pairwise fun earlier later => order earlier later ≠ .gt
  /-- The items that are equal to one of them keep their sequence. -/
  stable : OrdersOn order {item | item ∈ items} → ∀ item ∈ items,
    result.filter (order item · = .eq) = items.filter (order item · = .eq)

theorem sorts_sorted (order : Item → Item → Ordering) (items : List Item) :
    Sorts order items (sorted order items) where
  perm := sorted_perm order items
  ascending orders := orders.pairwise_sorted fun _ member => member
  stable orders item held := by
    refine filter_sorted fun first present last member firstEqual lastEqual => ?_
    simp only [decide_eq_true_eq] at firstEqual lastEqual
    have equal := orders.eq_trans present held member
      (orders.symm held present firstEqual) lastEqual
    simp [equal]

/-- Sequences that compare equal place by place and agree on what is equal to each item agree. -/
theorem eq_of_ties
    {items others : List Item}
    (reflexive : ∀ item ∈ items, order item item = .eq)
    (ties : List.Forall₂ (fun left right => order left right = .eq) items others)
    (stable : ∀ item ∈ items,
      items.filter (order item · = .eq) = others.filter (order item · = .eq)) :
    items = others := by
  induction ties with
  | nil => rfl
  | @cons item other items others equal _ hypothesis =>
      obtain ⟨self, selves⟩ := List.forall_mem_cons.mp reflexive
      -- Both heads are the first item that is equal to the one in front.
      have head := stable item List.mem_cons_self
      simp only [List.filter_cons, self, equal, decide_true, if_true] at head
      obtain ⟨rfl, -⟩ := List.cons.inj head
      congr 1
      refine hypothesis selves fun next member => ?_
      have behind := stable next (List.mem_cons_of_mem item member)
      rw [List.filter_cons, List.filter_cons] at behind
      split at behind
      · exact (List.cons.inj behind).2
      · exact behind

namespace Sorts

variable {items result : List Item}

/-- A comparison that is total and transitive on the items leaves one way to sort them. -/
theorem eq_of_ordersOn
    {other : List Item}
    (orders : OrdersOn order {item | item ∈ items})
    (first : Sorts order items result) (second : Sorts order items other) :
    result = other := by
  have inside : ∀ item ∈ result, item ∈ items := fun item => first.perm.mem_iff.mp
  refine eq_of_ties (fun item member => orders.refl (inside item member)) ?_ ?_
  · exact orders.ties_of_perm inside (first.perm.trans second.perm.symm)
      (first.ascending orders) (second.ascending orders)
  · intro item member
    rw [first.stable orders item (inside item member),
      second.stable orders item (inside item member)]

end Sorts

/-! ## Sorting by a key -/

/-- The items of a sequence in ascending order of a key, those of one key in their sequence. -/
structure StablySorted {Key : Type} [LinearOrder Key] (key : Item → Key)
    (items result : List Item) : Prop where
  /-- Every item is there. -/
  perm : result.Perm items
  /-- The keys never go down. -/
  ascending : result.Pairwise fun earlier later => key earlier ≤ key later
  /-- Items of one key keep their sequence. -/
  stable : ∀ shared, result.filter (key · = shared) = items.filter (key · = shared)

namespace StablySorted

variable {Key : Type} [LinearOrder Key] {key : Item → Key} {items : List Item}

/-- However items are sorted by a comparison that compares their keys, they are by their keys. -/
theorem of_sorts
    {result : List Item}
    (agree : ∀ left ∈ items, ∀ right ∈ items, order left right = compare (key left) (key right))
    (sorts : Sorts order items result) :
    StablySorted key items result := by
  have keys := (OrdersOn.of_linearOrder Set.univ).comap key
  have orders : OrdersOn order {item | item ∈ items} := by
    constructor
    · intro left held right present
      rw [agree left held right present, agree right present left held]
      exact keys.swap left trivial right trivial
    · intro first held second between third last
      rw [agree first held second between, agree second between third last,
        agree first held third last]
      exact keys.trans first trivial second trivial third trivial
  refine ⟨sorts.perm, ?_, fun shared => ?_⟩
  · refine (sorts.ascending orders).imp_of_mem fun {earlier later} held present forward => ?_
    rw [agree earlier (sorts.perm.subset held) later (sorts.perm.subset present)] at forward
    exact compare_le_iff_le.mp forward
  · by_cases owned : ∃ item ∈ items, key item = shared
    · obtain ⟨item, held, rfl⟩ := owned
      have level : ∀ other ∈ items,
          decide (key other = key item) = decide (order item other = .eq) := by
        intro other present
        rw [decide_eq_decide, agree item held other present, compare_eq_iff_eq]
        exact eq_comm
      rw [List.filter_congr fun other member => level other (sorts.perm.subset member),
        List.filter_congr level]
      exact sorts.stable orders item held
    · have none : ∀ other ∈ items, ¬decide (key other = shared) = true := by
        simpa using owned
      rw [List.filter_eq_nil_iff.mpr fun other member => none other (sorts.perm.subset member),
        List.filter_eq_nil_iff.mpr none]

/-- Sorting by the order of a key is stable and ascending. -/
theorem sorted_compare :
    StablySorted key items
      (sorted (fun left right => compare (key left) (key right)) items) :=
  of_sorts (fun _ _ _ _ => rfl) (sorts_sorted _ items)

/-- Where no key is shared, the sequence of the items makes no difference. -/
theorem eq_of_perm
    {others result otherResult : List Item}
    (first : StablySorted key items result)
    (second : StablySorted key others otherResult)
    (same : items.Perm others)
    (distinct : items.Pairwise fun left right => key left ≠ key right) :
    result = otherResult := by
  have injective := List.inj_on_of_nodup_map (List.pairwise_map.mpr distinct)
  refine List.Perm.eq_of_pairwise ?_ first.ascending second.ascending
    ((first.perm.trans same).trans second.perm.symm)
  intro left right held present forward backward
  exact injective (first.perm.subset held)
    (same.symm.subset (second.perm.subset present)) (le_antisymm forward backward)

end StablySorted

end Stencil
