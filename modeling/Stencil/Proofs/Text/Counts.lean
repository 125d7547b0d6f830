import Mathlib.Logic.Basic
import Stencil.Text.Numeral

/-!
# Counts as they are written

A count is written by its decimal digits, with any number of zeros and at most
one plus sign in front of them, and it fits sixty-four bits.  The reader takes
exactly the texts that are written so, and finds the value of the digits.
-/

namespace Stencil.Numeral

/-! ## Digits -/

/-- A letter stands for ten at least, so below ten only digits have a value. -/
theorem isDigit_of_digitValue?
    {character : Char} {value : Nat}
    (known : digitValue? 10 character = some value) :
    isDigit character = true := by
  rw [digitValue?, Option.filter_eq_some_iff] at known
  rcases known with ⟨found, below⟩
  have small : value < 10 := of_decide_eq_true below
  split at found
  · next digit => exact digit
  · split at found
    · rcases Option.some.inj found with rfl
      omega
    · split at found
      · rcases Option.some.inj found with rfl
        omega
      · cases found

theorem isSome_digitValue?_of_extend?
    {radix total value : Nat} {digits : List Char}
    (read : extend? radix total digits = some value) :
    ∀ digit ∈ digits, (digitValue? radix digit).isSome = true := by
  induction digits generalizing total with
  | nil => simp
  | cons digit digits ih =>
      rw [extend?] at read
      split at read
      · next known =>
          rw [List.forall_mem_cons]
          exact ⟨by rw [known]; rfl, ih read⟩
      · cases read

theorem natural?_digits
    {digits : List Char}
    (nonempty : digits ≠ [])
    (numeric : ∀ digit ∈ digits, isDigit digit = true) :
    natural? 10 digits = some (Nat.ofDigitChars 10 digits 0) := by
  rw [natural?, List.isEmpty_eq_false_iff.mpr nonempty,
    if_neg Bool.false_ne_true, extend?_eq_ofDigitChars numeric]

/-- One or more decimal digits of a number that fits sixty-four bits. -/
structure IsDecimal (digits : List Char) (value : Nat) : Prop where
  nonempty : digits ≠ []
  numeric : ∀ digit ∈ digits, isDigit digit = true
  value_eq : Nat.ofDigitChars 10 digits 0 = value
  fits : value < countLimit

theorem natural?_filter_eq_some_iff
    {digits : List Char} {value : Nat} :
    (natural? 10 digits).filter (· < countLimit) = some value ↔
      IsDecimal digits value := by
  rw [Option.filter_eq_some_iff]
  constructor
  · rintro ⟨read, bounded⟩
    have nonempty : digits ≠ [] := by
      rintro rfl
      cases read
    have extended : extend? 10 0 digits = some value := by
      rw [natural?, List.isEmpty_eq_false_iff.mpr nonempty,
        if_neg Bool.false_ne_true] at read
      exact read
    have numeric : ∀ digit ∈ digits, isDigit digit = true := by
      intro digit member
      rcases Option.isSome_iff_exists.mp
          (isSome_digitValue?_of_extend? extended digit member) with
        ⟨known, found⟩
      exact isDigit_of_digitValue? found
    have value_eq : Nat.ofDigitChars 10 digits 0 = value :=
      Option.some.inj ((natural?_digits nonempty numeric).symm.trans read)
    exact ⟨nonempty, numeric, value_eq, of_decide_eq_true bounded⟩
  · rintro ⟨nonempty, numeric, rfl, fits⟩
    exact ⟨natural?_digits nonempty numeric, decide_eq_true fits⟩

/-! ## Counts -/

/-- The texts of a count: its digits, or a plus sign with its digits behind. -/
inductive WritesCount : List Char → Nat → Prop where
  | unsigned {digits : List Char} {value : Nat}
      (decimal : IsDecimal digits value) :
      WritesCount digits value
  | signed {digits : List Char} {value : Nat}
      (decimal : IsDecimal digits value) :
      WritesCount ('+' :: digits) value

/-- The reader of counts takes exactly the texts of counts. -/
theorem count?_eq_some_iff
    {characters : List Char} {value : Nat} :
    count? characters = some value ↔ WritesCount characters value := by
  rw [count?.eq_def, natural?_filter_eq_some_iff]
  split
  · next digits =>
      constructor
      · exact .signed
      · intro writes
        cases writes with
        | unsigned decimal =>
            exact absurd (decimal.numeric '+' List.mem_cons_self) (by decide)
        | signed decimal => exact decimal
  · next unsigned =>
      constructor
      · exact .unsigned
      · intro writes
        cases writes with
        | unsigned decimal => exact decimal
        | signed decimal => exact absurd rfl (unsigned _)

theorem WritesCount.lt_countLimit
    {characters : List Char} {value : Nat}
    (writes : WritesCount characters value) :
    value < countLimit := by
  cases writes with
  | unsigned decimal => exact decimal.fits
  | signed decimal => exact decimal.fits

/-- A count begins with a plus sign or a digit. -/
theorem WritesCount.exists_head
    {characters : List Char} {value : Nat}
    (writes : WritesCount characters value) :
    ∃ first rest,
      characters = first :: rest ∧ (first = '+' ∨ isDigit first = true) := by
  cases writes with
  | unsigned decimal =>
      cases characters with
      | nil => exact absurd rfl decimal.nonempty
      | cons first rest =>
          exact
            ⟨first, rest, rfl, .inr (decimal.numeric first List.mem_cons_self)⟩
  | signed decimal => exact ⟨'+', _, rfl, .inl rfl⟩

end Stencil.Numeral
