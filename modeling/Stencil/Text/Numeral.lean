/-!
# Numerals

Whole numbers as text: digits in a radix up to thirty-six, counts that fit
sixty-four bits and signed integers that fit sixty-four bits.  Only ASCII
digits and letters are digits; digits of other scripts are not.
-/

namespace Stencil.Numeral

/-- One more than the greatest unsigned sixty-four bit number. -/
def countLimit : Nat := Nat.pow 2 64

/-- One more than the greatest signed sixty-four bit number. -/
def integerLimit : Nat := Nat.pow 2 63

/-- Whether a character is one of the ten ASCII digits. -/
def isDigit (character : Char) : Bool :=
  '0' ≤ character && character ≤ '9'

/-- The value of a digit or letter, of either case, when it is below the radix. -/
def digitValue? (radix : Nat) (character : Char) : Option Nat :=
  let value? :=
    if isDigit character then some (character.toNat - '0'.toNat)
    else if 'a' ≤ character && character ≤ 'z' then
      some (character.toNat - 'a'.toNat + 10)
    else if 'A' ≤ character && character ≤ 'Z' then
      some (character.toNat - 'A'.toNat + 10)
    else none
  value?.filter (· < radix)

/-- Continue a numeral that has the value `total` so far. -/
def extend? (radix total : Nat) : List Char → Option Nat
  | [] => some total
  | character :: rest =>
    match digitValue? radix character with
    | some value => extend? radix (total * radix + value) rest
    | none => none

/-- The value of a run of one or more digits. -/
def natural? (radix : Nat) (characters : List Char) : Option Nat :=
  if characters.isEmpty then none else extend? radix 0 characters

/-- A count: digits, after at most one plus sign, whose value fits sixty-four bits. -/
def count? (characters : List Char) : Option Nat :=
  let digits :=
    match characters with
    | '+' :: rest => rest
    | _ => characters
  (natural? 10 digits).filter (· < countLimit)

/-- An integer: digits after at most one sign, whose value fits sixty-four bits. -/
def integer? (radix : Nat) (characters : List Char) : Option Int :=
  match characters with
  | '-' :: rest =>
    ((natural? radix rest).filter (· ≤ integerLimit)).map fun value => -(value : Int)
  | '+' :: rest => ((natural? radix rest).filter (· < integerLimit)).map Int.ofNat
  | _ => ((natural? radix characters).filter (· < integerLimit)).map Int.ofNat

/-- The decimal digits of a natural number. -/
def decimal (value : Nat) : List Char :=
  Nat.toDigits 10 value

/-- The decimal digits of an integer, after a minus sign when it is negative. -/
def signedDecimal (value : Int) : List Char :=
  if value < 0 then '-' :: decimal value.natAbs else decimal value.natAbs

theorem digitValue?_of_isDigit
    {character : Char}
    (digit : isDigit character = true) :
    digitValue? 10 character = some (character.toNat - 48) := by
  have bounds : '0' ≤ character ∧ character ≤ '9' := by
    simpa [isDigit] using digit
  have upper : character.toNat ≤ 57 := bounds.2
  have small : character.toNat - 48 < 10 := by omega
  simp [digitValue?, digit, Option.filter, small]

theorem extend?_eq_ofDigitChars
    {characters : List Char}
    (digits : ∀ character ∈ characters, isDigit character = true)
    (total : Nat) :
    extend? 10 total characters = some (Nat.ofDigitChars 10 characters total) := by
  induction characters generalizing total with
  | nil => rfl
  | cons character rest hypothesis =>
    have digit := digits character (by simp)
    have tail := hypothesis (fun other member => digits other (by simp [member]))
    simp [extend?, digitValue?_of_isDigit digit, tail, Nat.ofDigitChars_cons, Nat.mul_comm]

/-- Decimal digits are ASCII digits. -/
theorem isDigit_of_mem_decimal
    {value : Nat}
    {character : Char}
    (member : character ∈ decimal value) :
    isDigit character = true := by
  have digit := Nat.isDigit_of_mem_toDigits (by decide) (by decide) member
  simpa [Char.isDigit, isDigit, UInt32.le_iff_toNat_le, Char.le_def] using digit

theorem decimal_ne_nil (value : Nat) : decimal value ≠ [] :=
  Nat.toDigits_ne_nil

/-- Decimal digits begin with no mark that is not a digit, a sign for instance. -/
theorem decimal_ne_cons
    {mark : Char}
    (other : isDigit mark = false)
    (value : Nat) (rest : List Char) :
    decimal value ≠ mark :: rest := by
  intro shape
  have first : mark ∈ decimal value := by
    rw [shape]
    exact List.mem_cons_self
  have digit := isDigit_of_mem_decimal first
  rw [other] at digit
  cases digit

/-- Decimal digits read back. -/
@[simp]
theorem natural?_decimal (value : Nat) :
    natural? 10 (decimal value) = some value := by
  have read : extend? 10 0 (decimal value) = some (Nat.ofDigitChars 10 (decimal value) 0) :=
    extend?_eq_ofDigitChars (fun _ member => isDigit_of_mem_decimal member) 0
  have digits : Nat.ofDigitChars 10 (decimal value) 0 = value :=
    Nat.ofDigitChars_toDigits (by decide) (by decide)
  simp [natural?, decimal_ne_nil, read, digits]

end Stencil.Numeral
