/-!
# Finite binary64 numbers

A finite double is a sign and a magnitude, the exponent and fraction fields of
its encoding read as one natural number.  Magnitudes grow with the numbers they
encode, so two doubles are ordered by comparing integers.  Every operation
computes the exact result as a ratio of natural numbers and rounds it once, to
nearest with ties to even.
-/

namespace Stencil

/-- The magnitude that encodes infinity; finite magnitudes are below it. -/
def infiniteMagnitude : Nat := 2047 * Nat.pow 2 52

/-- A finite binary64 number. -/
structure Binary64 where
  /-- The sign; zero has both. -/
  negative : Bool
  /-- The fields below the sign, read as one number. -/
  magnitude : Nat
  /-- The magnitude encodes a finite number. -/
  finite : magnitude < infiniteMagnitude
deriving DecidableEq

namespace Binary64

/-- Positive zero. -/
def zero : Binary64 := ⟨false, 0, by decide⟩

instance : Inhabited Binary64 := ⟨zero⟩

/-- The greatest finite number. -/
def greatest : Binary64 := ⟨false, infiniteMagnitude - 1, by decide⟩

/-- The same magnitude under the other sign. -/
def negate (value : Binary64) : Binary64 :=
  { value with negative := !value.negative }

/-- The fraction, with its leading bit when the number is normal. -/
def significand (value : Binary64) : Nat :=
  if value.magnitude < Nat.pow 2 52 then value.magnitude
  else Nat.pow 2 52 + value.magnitude % Nat.pow 2 52

/-- The unit of the significand is two to this power, over `2 ^ 1074`. -/
def shift (value : Binary64) : Nat :=
  value.magnitude / Nat.pow 2 52 - 1

/-- The absolute value is this natural number over `2 ^ 1074`. -/
def scaled (value : Binary64) : Nat :=
  value.significand * Nat.pow 2 value.shift

/-- The value is this integer over `2 ^ 1074`. -/
def signedScaled (value : Binary64) : Int :=
  if value.negative then -(value.scaled : Int) else value.scaled

/-- The signed magnitude, which is the place of the number in the order. -/
def rank (value : Binary64) : Int :=
  if value.negative then -(value.magnitude : Int) else value.magnitude

/-- The numeric order; the two zeros are equal. -/
def compare (left right : Binary64) : Ordering :=
  Ord.compare left.rank right.rank

/-- Whether the number is zero, of either sign. -/
def isZero (value : Binary64) : Bool :=
  value.magnitude == 0

/-- The quotient of two natural numbers, rounded to nearest with ties to even. -/
def nearest (numerator denominator : Nat) : Nat :=
  let quotient := numerator / denominator
  let twice := 2 * (numerator % denominator)
  if twice < denominator then quotient
  else if twice = denominator then quotient + quotient % 2
  else quotient + 1

/-- The magnitude nearest to a ratio, beyond the finite ones when it is too great. -/
def roundedMagnitude (numerator denominator : Nat) : Nat :=
  let units := numerator * Nat.pow 2 1074
  let shift := Nat.log2 (units / denominator) - 52
  let significand := nearest units (denominator * Nat.pow 2 shift)
  if significand < Nat.pow 2 52 then significand
  else (shift + 1) * Nat.pow 2 52 + (significand - Nat.pow 2 52)

/-- A ratio under a sign, rounded; nothing when it rounds beyond the finite numbers. -/
def ofRatio? (negative : Bool) (numerator denominator : Nat) : Option Binary64 :=
  let magnitude := roundedMagnitude numerator denominator
  if finite : magnitude < infiniteMagnitude then some ⟨negative, magnitude, finite⟩
  else none

/-- The number nearest to an integer; integers beyond all finite numbers give the greatest. -/
def ofInt (value : Int) : Binary64 :=
  (ofRatio? (value < 0) value.natAbs 1).getD { greatest with negative := value < 0 }

/-- The sum, rounded; an exact zero is negative only when both terms are. -/
def add? (left right : Binary64) : Option Binary64 :=
  let total := left.signedScaled + right.signedScaled
  let negative :=
    if total = 0 then left.negative && right.negative else decide (total < 0)
  ofRatio? negative total.natAbs (Nat.pow 2 1074)

/-- The product, rounded. -/
def multiply? (left right : Binary64) : Option Binary64 :=
  ofRatio? (left.negative != right.negative) (left.scaled * right.scaled) (Nat.pow 2 2148)

/-- The quotient by a number other than zero, rounded. -/
def divide? (left right : Binary64) : Option Binary64 :=
  ofRatio? (left.negative != right.negative) left.scaled right.scaled

/-- The integer part: the fraction is dropped, whatever the sign. -/
def truncate (value : Binary64) : Int :=
  let whole : Nat := value.scaled / Nat.pow 2 1074
  if value.negative then -(whole : Int) else whole

/-- A decimal, digits times a power of ten, rounded once. -/
def ofDecimal? (negative : Bool) (digits : Nat) (exponent : Int) : Option Binary64 :=
  let places := (Nat.toDigits 10 digits).length
  if digits = 0 then some { zero with negative }
  else if 400 < exponent + places then none
  else if exponent + places < -400 then some { zero with negative }
  else if exponent < 0 then ofRatio? negative digits (Nat.pow 10 exponent.natAbs)
  else ofRatio? negative (digits * Nat.pow 10 exponent.natAbs) 1

/-- A power of ten, rounded. -/
def tenPower (exponent : Nat) : Binary64 :=
  (ofRatio? false (Nat.pow 10 exponent) 1).getD greatest

/--
A number times a power of ten, in steps of at most 308 powers that are each
rounded.  Two such steps down already take every sixty-four bit number to zero.
-/
def scaleByTen? (value : Binary64) (exponent : Int) : Option Binary64 :=
  if value.isZero then some value
  else if 308 < exponent then none
  else if 0 ≤ exponent then value.multiply? (tenPower exponent.natAbs)
  else if -308 ≤ exponent then value.divide? (tenPower exponent.natAbs)
  else if -616 ≤ exponent then
    (value.divide? (tenPower 308)).bind fun lowered =>
      lowered.divide? (tenPower (exponent.natAbs - 308))
  else some { zero with negative := value.negative }

@[simp]
theorem compare_self (value : Binary64) : value.compare value = .eq := by
  simp [compare]

theorem compare_swap (left right : Binary64) :
    (left.compare right).swap = right.compare left :=
  Std.OrientedOrd.eq_swap.symm

end Binary64

end Stencil
