import Mathlib.Order.Compare
import Stencil.Number
import Stencil.Proofs.Number.Rounding

/-!
# The order of numbers

Comparing integers exactly refines comparing the doubles nearest to them, so
numbers are ordered by their doubles, and only ties between integers within the
signed range are broken.  A number outside that range that shares the double of
two different integers within it is equal to both of them.  These are the only
three numbers on which the comparison is not transitive.
-/

namespace Stencil.Number

theorem toBinary64_of_toSigned?
    {number : Number} {value : Int}
    (signed : number.toSigned? = some value) :
    number.toBinary64 = Binary64.ofInt value := by
  cases number with
  | double float => simp [toSigned?] at signed
  | whole integer =>
      simp only [toSigned?, Option.ite_none_right_eq_some, Option.some.injEq] at signed
      rw [← signed.2, toBinary64]

theorem compare_of_signed
    {left right : Number} {first second : Int}
    (signed : left.toSigned? = some first) (other : right.toSigned? = some second) :
    left.compare right = Ord.compare first second := by
  simp only [compare, signed, other]

theorem compare_of_not_signed
    {left right : Number}
    (beyond : left.toSigned? = none ∨ right.toSigned? = none) :
    left.compare right = left.toBinary64.compare right.toBinary64 := by
  unfold compare
  rcases beyond with beyond | beyond
  · rw [beyond]
  · rw [beyond]
    cases left.toSigned? with
    | none => rfl
    | some _ => rfl

/-- Two numbers are either both within the signed range, or one of them is not. -/
theorem signed_or_not (left right : Number) :
    (∃ first second, left.toSigned? = some first ∧ right.toSigned? = some second) ∨
      left.toSigned? = none ∨ right.toSigned? = none := by
  cases left.toSigned? with
  | none => simp
  | some first =>
      cases right.toSigned? with
      | none => simp
      | some second => simp

theorem compare_swap (left right : Number) :
    (left.compare right).swap = right.compare left := by
  rcases signed_or_not left right with ⟨first, second, signed, other⟩ | beyond
  · rw [compare_of_signed signed other, compare_of_signed other signed]
    exact Std.OrientedOrd.eq_swap.symm
  · rw [compare_of_not_signed beyond, compare_of_not_signed beyond.symm,
      Binary64.compare_swap]

/-- What does not come behind has no greater double. -/
theorem rank_le_of_compare_ne_gt
    {left right : Number}
    (forward : left.compare right ≠ .gt) :
    left.toBinary64.rank ≤ right.toBinary64.rank := by
  rcases signed_or_not left right with ⟨first, second, signed, other⟩ | beyond
  · rw [compare_of_signed signed other] at forward
    rw [toBinary64_of_toSigned? signed, toBinary64_of_toSigned? other]
    exact Binary64.rank_ofInt_mono (compare_le_iff_le.mp forward)
  · rw [compare_of_not_signed beyond] at forward
    exact compare_le_iff_le.mp forward

/--
Two different integers within the signed range, the greater one first, and between
them a number outside that range; all three have one double.
-/
structure Clash (greater outsider lesser : Number) : Prop where
  /-- The integers are different. -/
  exceeds : ∃ high low,
    greater.toSigned? = some high ∧ lesser.toSigned? = some low ∧ low < high
  /-- The third number is compared as a double. -/
  outside : outsider.toSigned? = none
  /-- It has the double of the greater integer. -/
  upper : greater.toBinary64.rank = outsider.toBinary64.rank
  /-- It has the double of the lesser integer. -/
  lower : outsider.toBinary64.rank = lesser.toBinary64.rank

/-- Comparing numbers is transitive except where three numbers clash. -/
theorem clash_iff (first second third : Number) :
    Clash first second third ↔
      first.compare second ≠ .gt ∧ second.compare third ≠ .gt ∧
        first.compare third = .gt := by
  constructor
  · rintro ⟨⟨high, low, greater, lesser, exceeds⟩, outside, upper, lower⟩
    refine ⟨?_, ?_, ?_⟩
    · rw [compare_of_not_signed (.inr outside)]
      exact compare_le_iff_le.mpr upper.le
    · rw [compare_of_not_signed (.inl outside)]
      exact compare_le_iff_le.mpr lower.le
    · rw [compare_of_signed greater lesser]
      exact compare_gt_iff_gt.mpr exceeds
  · rintro ⟨left, right, behind⟩
    have upper := rank_le_of_compare_ne_gt left
    have lower := rank_le_of_compare_ne_gt right
    rcases signed_or_not first third with ⟨high, low, greater, lesser⟩ | beyond
    · rw [compare_of_signed greater lesser] at behind
      have exceeds : low < high := compare_gt_iff_gt.mp behind
      cases outside : second.toSigned? with
      | none =>
          have doubles := Binary64.rank_ofInt_mono exceeds.le
          rw [← toBinary64_of_toSigned? greater, ← toBinary64_of_toSigned? lesser] at doubles
          exact ⟨⟨high, low, greater, lesser, exceeds⟩, outside, by omega, by omega⟩
      | some middle =>
          rw [compare_of_signed greater outside] at left
          rw [compare_of_signed outside lesser] at right
          have ordered := (compare_le_iff_le.mp left).trans (compare_le_iff_le.mp right)
          exact absurd exceeds ordered.not_gt
    · rw [compare_of_not_signed beyond] at behind
      exact absurd behind (compare_le_iff_le.mpr (upper.trans lower))

end Stencil.Number
