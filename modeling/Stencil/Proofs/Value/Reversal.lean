import Mathlib.Data.String.Basic
import Stencil.Proofs.Number.Order
import Stencil.Proofs.Value.Children

/-!
# Comparing the other way round

Two documents compared the other way round give the opposite order.  Numbers
do so in both ways in which they are compared, arrays because their items do,
and objects because sameness is symmetric where no object holds a name twice.
The descending order of a field is then the ascending one reversed, whatever is
compared in place of the field, and a document is equal to itself.
-/

namespace Stencil

namespace Value

theorem compareItems_swap
    {left right : List Value}
    (each : ∀ first ∈ left, ∀ second ∈ right,
      (first.compare second).swap = second.compare first) :
    (compareItems left right).swap = compareItems right left := by
  induction left generalizing right with
  | nil =>
      cases right with
      | nil => rfl
      | cons _ _ => rfl
  | cons item rest ih =>
      cases right with
      | nil => rfl
      | cons other more =>
          have heads : (item.compare other).swap = other.compare item :=
            each item List.mem_cons_self other List.mem_cons_self
          have tails :
              (compareItems rest more).swap = compareItems more rest := by
            apply ih
            intro first held second present
            exact
              each first (List.mem_cons_of_mem item held)
                second (List.mem_cons_of_mem other present)
          rw [compareItems, compareItems, Ordering.swap_then, heads, tails]

theorem compare_object_swap
    {left right : List (String × Value)}
    (leftDistinct : (Value.object left).Distinct)
    (rightDistinct : (Value.object right).Distinct) :
    ((Value.object left).compare (.object right)).swap =
      (Value.object right).compare (.object left) := by
  have agree : same (.object left) (.object right) = same (.object right) (.object left) :=
    Bool.eq_iff_iff.mpr
      ⟨same_symm leftDistinct rightDistinct, same_symm rightDistinct leftDistinct⟩
  rw [compare, compare, agree]
  split
  case isTrue => rfl
  case isFalse =>
    rw [Ordering.swap_then, ← Std.OrientedOrd.eq_swap, ← Std.OrientedOrd.eq_swap]

/-- The induction is on the left document; documents of different types go by their types. -/
theorem compare_swap
    {left right : Value}
    (leftDistinct : left.Distinct) (rightDistinct : right.Distinct) :
    (left.compare right).swap = right.compare left := by
  induction leftDistinct generalizing right with
  | null =>
      cases rightDistinct with
      | _ => rfl
  | bool truth =>
      cases rightDistinct with
      | bool other => exact Std.OrientedOrd.eq_swap.symm
      | _ => rfl
  | number quantity =>
      cases rightDistinct with
      | number other => exact Number.compare_swap quantity other
      | _ => rfl
  | text content =>
      cases rightDistinct with
      | text other => exact Std.OrientedOrd.eq_swap.symm
      | _ => rfl
  | array each ih =>
      cases rightDistinct with
      | array eachRight =>
          apply compareItems_swap
          intro first held second present
          exact ih first held (eachRight second present)
      | _ => rfl
  | object names each =>
      cases rightDistinct with
      | object namesRight eachRight =>
          exact compare_object_swap (.object names each) (.object namesRight eachRight)
      | _ => rfl

theorem compare_self
    {value : Value}
    (distinct : value.Distinct) :
    value.compare value = .eq := by
  have opposite := compare_swap distinct distinct
  cases order : value.compare value with
  | eq => rfl
  | lt =>
      rw [order] at opposite
      cases opposite
  | gt =>
      rw [order] at opposite
      cases opposite

/-- The field of a document is a part of it, or null. -/
theorem Distinct.field
    {value : Value}
    (distinct : value.Distinct)
    (name : String) :
    (Value.field name value).Distinct := by
  cases value with
  | object members => exact distinct.child?_getD (.member name)
  | array items =>
      rw [Value.field]
      cases Numeral.count? name.toList with
      | none => exact .null
      | some index => exact distinct.child?_getD (.index index)
  | _ => exact .null

end Value

namespace FieldOrder

/-- What is compared in place of a document is a document again, without repeated names. -/
def KeepsDistinct (order : FieldOrder) : Prop :=
  ∀ image ∈ order.image, ∀ value : Value, value.Distinct → (image value).Distinct

theorem KeepsDistinct.key
    {order : FieldOrder} {item : Value}
    (keeps : order.KeepsDistinct)
    (distinct : item.Distinct) :
    (order.key item).Distinct := by
  have field := distinct.field order.name
  rw [FieldOrder.key]
  cases declared : order.image with
  | none => exact field
  | some image => exact keeps image declared _ field

/--
The descending order of a field is the reverse of the ascending one, the order
of documents is reversed with its sides, and a document is equal to itself.
-/
theorem compare_descending_eq_swap
    {left right : Value}
    (leftDistinct : left.Distinct) (rightDistinct : right.Distinct) :
    (∀ order : FieldOrder,
      order.KeepsDistinct →
        FieldOrder.compare { order with descending := true } left right =
          (FieldOrder.compare { order with descending := false } left right).swap) ∧
    right.compare left = (left.compare right).swap ∧
    left.compare left = .eq := by
  refine ⟨?mirrored, ?swapped, ?level⟩
  case mirrored =>
    intro order keeps
    have leftKey := keeps.key leftDistinct
    have rightKey := keeps.key rightDistinct
    show (order.key right).compare (order.key left) =
      ((order.key left).compare (order.key right)).swap
    exact (Value.compare_swap leftKey rightKey).symm
  case swapped => exact (Value.compare_swap leftDistinct rightDistinct).symm
  case level => exact Value.compare_self leftDistinct

/-- An integer comes behind a greater double when the greatest comes first, also in an array. -/
theorem compare_descending_wrapped :
    FieldOrder.compare
        { name := "n", image := some fun key => .array [key], descending := true }
        (.object [("n", .ofInt 2)])
        (.object [("m", .null), ("n", .number (.double (Binary64.ofInt 3)))]) =
      .gt := by
  have leftDistinct : (Value.object [("n", .ofInt 2)]).Distinct := by
    refine .object (List.nodup_singleton _) fun member held => ?_
    rcases List.mem_singleton.mp held with rfl
    exact .number _
  have rightDistinct :
      (Value.object
        [("m", .null), ("n", .number (.double (Binary64.ofInt 3)))]).Distinct := by
    refine .object (by decide) fun member held => ?_
    rcases List.mem_pair.mp held with rfl | rfl
    · exact .null
    · exact .number _
  have keeps :
      KeepsDistinct
        { name := "n", image := some fun key => .array [key], descending := true } := by
    intro image declared value distinct
    rcases Option.some.inj declared with rfl
    refine .array fun item held => ?_
    rcases List.mem_singleton.mp held with rfl
    exact distinct
  rw [(compare_descending_eq_swap leftDistinct rightDistinct).1 _ keeps]
  decide +kernel

end FieldOrder

end Stencil
