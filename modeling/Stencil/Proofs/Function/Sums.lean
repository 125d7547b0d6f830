import Mathlib.Data.List.Induction
import Mathlib.Data.Set.Defs
import Stencil.Function.Standard
import Stencil.Proofs.Number.Order

/-!
# Sums of items

A sum is exact while the items are integers of the signed sixty-four bits and so
are the totals on the way.  From the first item on that leaves them it is a double:
the exact total so far is rounded once and the remaining items are added to it one by
one.  A double never becomes an integer again, and a sum that leaves the finite
doubles fails.  An item that is not a number fails the sum wherever it stands, and
the first such item is the one that is named.
-/

namespace Stencil

/-- The integers of the signed sixty-four bits. -/
def signedRange : Set Int :=
  { value | -(Numeral.integerLimit : Int) ≤ value ∧ value < Numeral.integerLimit }

/-- Integers of the signed range whose sums from the front are in that range too. -/
structure AddsWithin (terms : List Int) : Prop where
  terms_mem : ∀ term ∈ terms, term ∈ signedRange
  fronts_mem : ∀ front, front <+: terms → front.sum ∈ signedRange

theorem AddsWithin.sum_mem
    {terms : List Int}
    (within : AddsWithin terms) :
    terms.sum ∈ signedRange :=
  within.fronts_mem terms List.prefix_rfl

theorem addsWithin_nil : AddsWithin [] where
  terms_mem := by simp
  fronts_mem := by
    intro front ahead
    rw [List.prefix_nil.mp ahead]
    exact ⟨by decide, by decide⟩

/-- One more term stays within when both it and the new total do. -/
theorem addsWithin_concat_iff
    {terms : List Int} {term : Int} :
    AddsWithin (terms ++ [term]) ↔
      AddsWithin terms ∧ term ∈ signedRange ∧
        terms.sum + term ∈ signedRange := by
  constructor
  · rintro ⟨terms_mem, fronts_mem⟩
    refine ⟨⟨?_, ?_⟩, terms_mem term (by simp), ?_⟩
    · intro other member
      exact terms_mem other (List.mem_append_left [term] member)
    · intro front ahead
      exact fronts_mem front (ahead.trans (List.prefix_append terms [term]))
    · have total := fronts_mem (terms ++ [term]) List.prefix_rfl
      rwa [List.sum_append, List.sum_singleton] at total
  · rintro ⟨within, term_mem, total_mem⟩
    refine ⟨?_, ?_⟩
    · intro other member
      rcases List.mem_append.mp member with earlier | last
      · exact within.terms_mem other earlier
      · rcases List.mem_singleton.mp last with rfl
        exact term_mem
    · intro front ahead
      rcases List.prefix_concat_iff.mp ahead with rfl | earlier
      · rwa [List.sum_append, List.sum_singleton]
      · exact within.fronts_mem front earlier

/-- A number that is not the next integer of a sum that stays within the signed range. -/
def Leaves (terms : List Int) (number : Number) : Prop :=
  ∀ term, number = .ofInt term → ¬AddsWithin (terms ++ [term])

/-! ## Numbers of the signed range -/

namespace Number

theorem exists_whole_of_mem_signedRange
    {term : Int}
    (signed : term ∈ signedRange) :
    ∃ integer : Whole, integer.value = term ∧ ofInt term = .whole integer := by
  have limits : Numeral.integerLimit < Numeral.countLimit := by decide
  have upper : term < Numeral.countLimit := by
    have := signed.2
    omega
  exact ⟨⟨term, signed.1, upper⟩, rfl, dif_pos ⟨signed.1, upper⟩⟩

theorem toSigned?_eq_some_iff
    {number : Number} {term : Int} :
    number.toSigned? = some term ↔
      term ∈ signedRange ∧ number = .ofInt term := by
  constructor
  · intro found
    cases number with
    | double float => cases found
    | whole integer =>
        rw [toSigned?, Option.ite_none_right_eq_some] at found
        rcases found with ⟨below, value⟩
        rcases Option.some.inj value with rfl
        exact ⟨⟨integer.lower, below⟩, (ofInt_value integer).symm⟩
  · rintro ⟨signed, rfl⟩
    rcases exists_whole_of_mem_signedRange signed with ⟨integer, rfl, whole⟩
    rw [whole, toSigned?, if_pos signed.2]

end Number

/-! ## Totals -/

namespace Total

theorem fits_iff (value : Int) :
    fits value = true ↔ value ∈ signedRange := by
  rw [fits, Bool.and_eq_true, decide_eq_true_eq, decide_eq_true_eq]
  rfl

theorem exact_add_of_addsWithin
    {terms : List Int} {term : Int}
    (within : AddsWithin (terms ++ [term])) :
    (Total.exact terms.sum).add (.ofInt term) = .exact (terms ++ [term]).sum := by
  rcases addsWithin_concat_iff.mp within with ⟨_, signed, inside⟩
  rw [add, Number.toSigned?_eq_some_iff.mpr ⟨signed, rfl⟩, List.sum_append,
    List.sum_singleton]
  exact if_pos ((fits_iff _).mpr inside)

/-- A number that leaves the signed range, by itself or with the total, makes a double. -/
theorem exact_add_of_leaves
    {terms : List Int} {number : Number}
    (within : AddsWithin terms)
    (leaves : Leaves terms number) :
    (Total.exact terms.sum).add number =
      ofDouble? ((Binary64.ofInt terms.sum).add? number.toBinary64) := by
  cases signed : number.toSigned? with
  | none => rw [add, signed]
  | some term =>
      rcases Number.toSigned?_eq_some_iff.mp signed with ⟨term_mem, same⟩
      have beyond : ¬fits (terms.sum + term) = true := by
        intro inside
        apply leaves term same
        exact addsWithin_concat_iff.mpr ⟨within, term_mem, (fits_iff _).mp inside⟩
      rw [add, signed, Number.toBinary64_of_toSigned? signed]
      exact if_neg beyond

/-- What was rounded stays rounded. -/
theorem ofDouble?_add (float? : Option Binary64) (number : Number) :
    (ofDouble? float?).add number =
      ofDouble? (float?.bind (·.add? number.toBinary64)) := by
  cases float? with
  | none => rfl
  | some float => rw [ofDouble?, add, Option.bind_some]

end Total

/-- Numbers added as doubles from a start on; nothing once the sum is not finite. -/
def roundedSum? (start : Binary64) (numbers : List Number) : Option Binary64 :=
  numbers.foldlM (fun total number => total.add? number.toBinary64) start

theorem roundedSum?_singleton (start : Binary64) (number : Number) :
    roundedSum? start [number] = start.add? number.toBinary64 := by
  rw [roundedSum?, List.foldlM_cons]
  exact bind_pure _

theorem roundedSum?_concat
    (start : Binary64) (numbers : List Number) (number : Number) :
    roundedSum? start (numbers ++ [number]) =
      (roundedSum? start numbers).bind (·.add? number.toBinary64) := by
  rw [roundedSum?, List.foldlM_append]
  exact congrArg (Option.bind _) (funext fun total => roundedSum?_singleton total number)

/--
What adding numbers from zero comes to: the exact sum of integers that stay within
the signed range, or the exact sum of the longest such front, rounded, with all the
others behind it added as doubles.
-/
inductive Reaches : List Number → Total → Prop where
  | exact {terms : List Int} (within : AddsWithin terms) :
      Reaches (terms.map .ofInt) (.exact terms.sum)
  | rounded {terms : List Int} {number : Number} {rest : List Number}
      (within : AddsWithin terms) (leaves : Leaves terms number) :
      Reaches (terms.map .ofInt ++ number :: rest)
        (.ofDouble? (roundedSum? (.ofInt terms.sum) (number :: rest)))

/-- One more number keeps the total exact or rounds it, and what is rounded stays so. -/
theorem Reaches.concat
    {numbers : List Number} {total : Total}
    (reaches : Reaches numbers total)
    (number : Number) :
    Reaches (numbers ++ [number]) (total.add number) := by
  cases reaches with
  | @exact terms within =>
      by_cases leaves : Leaves terms number
      · rw [Total.exact_add_of_leaves within leaves, ← roundedSum?_singleton]
        exact .rounded within leaves
      · simp only [Leaves, not_forall, not_not] at leaves
        rcases leaves with ⟨term, rfl, further⟩
        have next := Reaches.exact further
        rwa [List.map_append, List.map_singleton,
          ← Total.exact_add_of_addsWithin further] at next
  | @rounded terms first rest within leaves =>
      rw [Total.ofDouble?_add, ← roundedSum?_concat, List.append_assoc]
      exact .rounded within leaves

/-- Adding numbers one by one comes to what they reach. -/
theorem reaches_foldl (numbers : List Number) :
    Reaches numbers (numbers.foldl Total.add (.exact 0)) := by
  induction numbers using List.reverseRecOn with
  | nil => exact .exact addsWithin_nil
  | append_singleton numbers number ih =>
      rw [List.foldl_concat]
      exact ih.concat number

/-- One step beyond the signed range the total is a double, and it stays one on the way back. -/
example :
    ([9223372036854775807, 1, -1].map Number.ofInt).foldl Total.add (.exact 0) =
      .rounded (.ofInt 9223372036854775807) := by
  decide +kernel

theorem foldl_add_of_addsWithin
    {terms : List Int}
    (within : AddsWithin terms) :
    (terms.map Number.ofInt).foldl Total.add (.exact 0) = .exact terms.sum := by
  induction terms using List.reverseRecOn with
  | nil => rfl
  | append_singleton terms term ih =>
      have earlier := (addsWithin_concat_iff.mp within).1
      rw [List.map_append, List.map_singleton, List.foldl_concat, ih earlier,
        Total.exact_add_of_addsWithin within]

/-! ## Items -/

/-- The item at an index is not a number, and it is the first such item. -/
def FirstOther (items : List Value) (index : Nat) : Prop :=
  ∃ (numbers : List Number) (item : Value) (rest : List Value),
    items = numbers.map .number ++ item :: rest ∧
      (∀ number, item ≠ .number number) ∧ numbers.length = index

/-- A sequence holds numbers only, or there is a first item that is none. -/
theorem exists_numbers_or_other (items : List Value) :
    (∃ numbers : List Number, items = numbers.map .number) ∨
      ∃ index, FirstOther items index := by
  induction items with
  | nil => exact .inl ⟨[], rfl⟩
  | cons item items ih =>
      by_cases other : ∀ number, item ≠ .number number
      · exact .inr ⟨0, [], item, items, rfl, other, rfl⟩
      · simp only [not_forall, not_not] at other
        rcases other with ⟨number, rfl⟩
        rcases ih with ⟨numbers, rfl⟩ | ⟨index, numbers, item, rest, rfl, other, _⟩
        · exact .inl ⟨number :: numbers, rfl⟩
        · exact .inr ⟨_, number :: numbers, item, rest, rfl, other, rfl⟩

namespace Standard

theorem addItems_numbers
    (index : Nat) (total : Total) (numbers : List Number) :
    addItems index total (numbers.map .number) =
      .ok (numbers.foldl Total.add total) := by
  induction numbers generalizing index total with
  | nil => rfl
  | cons number numbers ih => exact ih (index + 1) (total.add number)

theorem addItems_other
    {item : Value}
    (other : ∀ number, item ≠ .number number)
    (index : Nat) (total : Total) (numbers : List Number) (rest : List Value) :
    addItems index total (numbers.map .number ++ item :: rest) =
      .error (.invalid 0 (.itemNotNumber (index + numbers.length))) := by
  induction numbers generalizing index total with
  | nil =>
      cases item with
      | number number => exact absurd rfl (other number)
      | _ => rfl
  | cons number numbers ih =>
      rw [List.map_cons, List.cons_append, addItems, ih, List.length_cons]
      congr 3
      omega

theorem sum_array (items : List Value) :
    sum [.array items] =
      (addItems 0 (.exact 0) items).bind fun total =>
        match total.number? with
        | some quantity => .ok (.number quantity)
        | none => .error (.failed "sum is not finite") :=
  rfl

theorem map_ofInt (terms : List Int) :
    terms.map Value.ofInt = (terms.map Number.ofInt).map .number := by
  rw [List.map_map]
  rfl

theorem sum_of_addsWithin
    {terms : List Int}
    (within : AddsWithin terms) :
    sum [.array (terms.map Value.ofInt)] = .ok (.ofInt terms.sum) := by
  rw [map_ofInt, sum_array, addItems_numbers, foldl_add_of_addsWithin within]
  rfl

/-- What a sum of doubles gives: the double, or a failure when it is not finite. -/
def finiteOrFailed : Option Binary64 → Except FunctionError Value
  | some float => .ok (.number (.double float))
  | none => .error (.failed "sum is not finite")

theorem sum_of_rounded
    {numbers added : List Number} {start : Binary64}
    (rounded :
      numbers.foldl Total.add (.exact 0) = .ofDouble? (roundedSum? start added)) :
    sum [.array (numbers.map .number)] =
      finiteOrFailed (roundedSum? start added) := by
  rw [sum_array, addItems_numbers, rounded]
  cases roundedSum? start added with
  | none => rfl
  | some float => rfl

theorem sum_of_firstOther
    {items : List Value} {index : Nat}
    (first : FirstOther items index) :
    sum [.array items] = .error (.invalid 0 (.itemNotNumber index)) := by
  rcases first with ⟨numbers, item, rest, rfl, other, rfl⟩
  rw [sum_array, addItems_other other, Nat.zero_add]
  rfl

/-! ## Outcomes -/

theorem exists_addsWithin_of_sum
    {items : List Value} {integer : Whole}
    (summed : sum [.array items] = .ok (.number (.whole integer))) :
    ∃ terms, AddsWithin terms ∧ items = terms.map .ofInt := by
  rcases exists_numbers_or_other items with ⟨numbers, rfl⟩ | ⟨index, first⟩
  · generalize reached : numbers.foldl Total.add (.exact 0) = total
    have reaches := reaches_foldl numbers
    rw [reached] at reaches
    cases reaches with
    | @exact terms within => exact ⟨terms, within, (map_ofInt terms).symm⟩
    | rounded within leaves =>
        rw [sum_of_rounded reached, finiteOrFailed.eq_def] at summed
        split at summed
        · cases summed
        · cases summed
  · rw [sum_of_firstOther first] at summed
    cases summed

theorem firstOther_of_sum
    {items : List Value} {index : Nat}
    (failed : sum [.array items] = .error (.invalid 0 (.itemNotNumber index))) :
    FirstOther items index := by
  rcases exists_numbers_or_other items with ⟨numbers, rfl⟩ | ⟨found, first⟩
  · rw [sum_array, addItems_numbers, Except.bind] at failed
    split at failed
    · cases failed
    · cases failed
  · rw [sum_of_firstOther first] at failed
    cases failed
    exact first

theorem exists_rounded_of_not_addsWithin
    {numbers : List Number}
    (beyond : ∀ terms, AddsWithin terms → numbers ≠ terms.map .ofInt) :
    ∃ (terms : List Int) (number : Number) (rest : List Number),
      numbers = terms.map .ofInt ++ number :: rest ∧
        AddsWithin terms ∧ Leaves terms number ∧
        sum [.array (numbers.map .number)] =
          finiteOrFailed (roundedSum? (.ofInt terms.sum) (number :: rest)) := by
  generalize reached : numbers.foldl Total.add (.exact 0) = total
  have reaches := reaches_foldl numbers
  rw [reached] at reaches
  cases reaches with
  | exact within => exact absurd rfl (beyond _ within)
  | @rounded terms number rest within leaves =>
      exact ⟨terms, number, rest, rfl, within, leaves, sum_of_rounded reached⟩

/--
A sum is an integer exactly when the items are integers of the signed range and so are
all totals on the way, and then it is their exact sum.  The first item that is not a
number is named, whatever stands in front of it.  Every other sum rounds the exact
total of the longest front that stays within the range and adds the rest as doubles.
-/
theorem sum_exact_or_rounded (items : List Value) :
    ((∃ integer : Whole, sum [.array items] = .ok (.number (.whole integer))) ↔
      ∃ terms, AddsWithin terms ∧ items = terms.map .ofInt) ∧
    (∀ terms, AddsWithin terms → items = terms.map .ofInt →
      ∃ integer : Whole, integer.value = terms.sum ∧
        sum [.array items] = .ok (.number (.whole integer))) ∧
    (∀ index, sum [.array items] = .error (.invalid 0 (.itemNotNumber index)) ↔
      FirstOther items index) ∧
    (∀ numbers : List Number, items = numbers.map .number →
      (∀ terms, AddsWithin terms → items ≠ terms.map .ofInt) →
        ∃ (terms : List Int) (number : Number) (rest : List Number),
          numbers = terms.map .ofInt ++ number :: rest ∧
            AddsWithin terms ∧ Leaves terms number ∧
            sum [.array items] =
              finiteOrFailed (roundedSum? (.ofInt terms.sum) (number :: rest))) := by
  have exact :
      ∀ terms, AddsWithin terms → items = terms.map .ofInt →
        ∃ integer : Whole, integer.value = terms.sum ∧
          sum [.array items] = .ok (.number (.whole integer)) := by
    rintro terms within rfl
    rcases Number.exists_whole_of_mem_signedRange within.sum_mem with
      ⟨integer, value, whole⟩
    exact ⟨integer, value, by rw [sum_of_addsWithin within, Value.ofInt, whole]⟩
  refine ⟨⟨?integer, ?within⟩, exact, ?other, ?rounded⟩
  case integer =>
    rintro ⟨integer, summed⟩
    exact exists_addsWithin_of_sum summed
  case within =>
    rintro ⟨terms, within, same⟩
    rcases exact terms within same with ⟨integer, _, summed⟩
    exact ⟨integer, summed⟩
  case other => exact fun index => ⟨firstOther_of_sum, sum_of_firstOther⟩
  case rounded =>
    rintro numbers rfl beyond
    apply exists_rounded_of_not_addsWithin
    rintro terms within rfl
    exact beyond terms within (map_ofInt terms).symm

end Standard

end Stencil
