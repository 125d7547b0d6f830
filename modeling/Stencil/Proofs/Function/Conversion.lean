import Stencil.Function.Standard
import Stencil.Proofs.Operator.Tokens
import Stencil.Proofs.Text.Cutting

/-!
# Conversions and back

Splitting a text and joining the pieces with the same separator gives the text
back, and no piece holds a separator that is not empty.  The text of an integer
is read back as that integer within the signed sixty-four bits.  An unsigned integer
beyond them is kept when it is converted as a number, but its text is refused.
-/

namespace Stencil

/-! ## Pieces of a text -/

namespace Standard

/-- Joining undoes splitting, and no piece holds the separator unless that is empty. -/
theorem join_split (separator content : String) :
    ∃ pieces : List String,
      split [.text separator, .text content] =
        .ok (.array (pieces.map Value.text)) ∧
      join [.text separator, .array (pieces.map Value.text)] =
        .ok (.text content) ∧
      (separator ≠ "" →
        ∀ piece ∈ pieces, ¬separator.toList <:+: piece.toList) := by
  let cuts := Text.cut separator.toList content.toList
  refine ⟨cuts.map String.ofList, ?split, ?join, ?free⟩
  case split =>
    rw [List.map_map]
    rfl
  case join =>
    have texts :
        ((cuts.map String.ofList).map Value.text).map
          (fun item => item.plainText.toList) = cuts := by
      simp [Function.comp_def, Value.plainText]
    calc
      join [.text separator, .array ((cuts.map String.ofList).map Value.text)]
      _ = .ok (.text (String.ofList (Text.glue separator.toList
            (((cuts.map String.ofList).map Value.text).map
              fun item => item.plainText.toList)))) :=
        rfl
      _ = .ok (.text content) := by
        rw [texts, Text.glue_cut, String.ofList_toList]
  case free =>
    intro nonempty piece member
    rcases List.mem_map.mp member with ⟨characters, inside, rfl⟩
    rw [String.toList_ofList]
    have occupied : separator.toList ≠ [] := by simpa using nonempty
    exact Text.not_isInfix_of_mem_cut occupied inside

end Standard

/-! ## Texts of integers -/

namespace Numeral

theorem integer?_decimal (value : Nat) :
    integer? 10 (decimal value) =
      if value < integerLimit then some (value : Int) else none := by
  have unsigned :
      integer? 10 (decimal value) =
        ((natural? 10 (decimal value)).filter (· < integerLimit)).map Int.ofNat := by
    rw [integer?]
    · exact decimal_ne_cons (by decide) value
    · exact decimal_ne_cons (by decide) value
  rw [unsigned, natural?_decimal]
  by_cases small : value < integerLimit
  · rw [Option.filter_some, if_pos (decide_eq_true small), if_pos small]
    rfl
  · simp only [Option.filter_some, decide_eq_true_eq, if_neg small, Option.map_none]

/-- The text of an integer is read back exactly when the integer is below the signed limit. -/
theorem integer?_signedDecimal
    {value : Int}
    (lower : -(integerLimit : Int) ≤ value) :
    integer? 10 (signedDecimal value) =
      if value < integerLimit then some value else none := by
  rw [signedDecimal]
  by_cases negative : value < 0
  · have small : value.natAbs ≤ integerLimit := by omega
    have below : value < integerLimit := by omega
    have same : -(value.natAbs : Int) = value := by omega
    rw [if_pos negative, if_pos below, integer?, natural?_decimal,
      Option.filter_some, if_pos (decide_eq_true small)]
    exact congrArg some same
  · have same : (value.natAbs : Int) = value := by omega
    have below : value.natAbs < integerLimit ↔ value < integerLimit := by omega
    rw [if_neg negative, integer?_decimal, same]
    simp only [below]

theorem isTrimmed_signedDecimal (value : Int) :
    Text.IsTrimmed (signedDecimal value) := by
  rw [signedDecimal]
  split
  · exact isTrimmed_cons_decimal (by decide) value.natAbs
  · exact isTrimmed_decimal value.natAbs

end Numeral

namespace Standard

/--
The text of an integer is read back as the integer exactly within the signed
sixty-four bits, and refused beyond them.  The number itself is kept in every case.
-/
theorem toInt_toText_eq (integer : Whole) :
    ∃ printed : String,
      toText [.number (.whole integer)] = .ok (.text printed) ∧
      toInt [.number (.whole integer)] = .ok (.number (.whole integer)) ∧
      toInt [.text printed] =
        if integer.value < Numeral.integerLimit then .ok (.number (.whole integer))
        else .error (.invalid 0 (.notInteger printed)) := by
  refine ⟨String.ofList (Numeral.signedDecimal integer.value), rfl, rfl, ?_⟩
  rw [toInt, integerAt, String.toList_ofList,
    (Numeral.isTrimmed_signedDecimal integer.value).trim_eq,
    Numeral.integer?_signedDecimal integer.lower]
  by_cases signed : integer.value < Numeral.integerLimit
  · simp only [if_pos signed, Value.ofInt, Number.ofInt_value]
  · simp only [if_neg signed]

/-- The least integer beyond the signed range is kept as a number and refused as a text. -/
theorem toInt_toText_unsigned :
    toText [.ofNat 9223372036854775808] = .ok (.text "9223372036854775808") ∧
      toInt [.ofNat 9223372036854775808] = .ok (.ofNat 9223372036854775808) ∧
      toInt [.text "9223372036854775808"] =
        .error (.invalid 0 (.notInteger "9223372036854775808")) :=
  ⟨rfl, rfl, rfl⟩

end Standard

end Stencil
