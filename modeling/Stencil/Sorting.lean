/-!
# Sorting

Items are sorted one after the other: each is put behind the items sorted so
far and moves forward past those it comes before.  Items that compare equal
keep their places.  Where a comparison is total and transitive on the items,
that leaves only one sequence, however it is found.  Of any other comparison
the sequence is meant for up to twenty items, and beyond that only the items in
it are.
-/

namespace Stencil

/-- Put an item at the end of a sorted sequence, last item first, and move it forward. -/
def settle {Item : Type} (order : Item → Item → Ordering) (item : Item) :
    List Item → List Item
  | [] => [item]
  | last :: rest =>
    if order item last = .lt then last :: settle order item rest
    else item :: last :: rest

/-- A sequence sorted by an order. -/
def sorted {Item : Type} (order : Item → Item → Ordering) (items : List Item) : List Item :=
  (items.foldl (fun settled item => settle order item settled) []).reverse

theorem settle_perm {Item : Type} (order : Item → Item → Ordering) (item : Item)
    (items : List Item) :
    (settle order item items).Perm (item :: items) := by
  induction items with
  | nil => exact List.Perm.refl _
  | cons last rest hypothesis =>
    unfold settle
    split
    · exact (hypothesis.cons last).trans (List.Perm.swap item last rest)
    · exact List.Perm.refl _

theorem foldl_settle_perm {Item : Type} (order : Item → Item → Ordering)
    (items settled : List Item) :
    (items.foldl (fun sorted item => settle order item sorted) settled).Perm
      (items ++ settled) := by
  induction items generalizing settled with
  | nil => exact List.Perm.refl _
  | cons item rest hypothesis =>
    have moved := (settle_perm order item settled).append_left rest
    exact ((hypothesis (settle order item settled)).trans moved).trans List.perm_middle

/-- Sorting keeps every item. -/
theorem sorted_perm {Item : Type} (order : Item → Item → Ordering) (items : List Item) :
    (sorted order items).Perm items := by
  have all := foldl_settle_perm order items []
  rw [List.append_nil] at all
  exact (List.reverse_perm _).trans all

end Stencil
