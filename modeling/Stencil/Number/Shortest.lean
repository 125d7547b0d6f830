import Stencil.Number.Binary64

/-!
# The shortest decimal of a binary64 number

A decimal denotes a double when it lies in the interval of real numbers that
round to it, whose ends belong to it when the magnitude is even.  For each
count of digits the two neighbours of the number on that decimal grid are
tried; the first count with a hit gives the shortest decimal, and of two hits
the nearer is taken.
-/

namespace Stencil

/-- Decimal digits and the place of the point: the value is `0.digits` times ten to `point`. -/
structure DecimalForm where
  /-- The digits, without zeros at either end. -/
  digits : List Char
  /-- The position of the decimal point, counted from in front of the digits. -/
  point : Int
deriving DecidableEq

namespace Binary64

/--
The interval that rounds to a number, as natural numbers over `2 ^ 1076`: its
lower end, the number and its upper end.
-/
def interval (value : Binary64) : Nat × Nat × Nat :=
  let unit := Nat.pow 2 value.shift
  let below :=
    if value.magnitude % Nat.pow 2 52 = 0 && 1 < value.magnitude / Nat.pow 2 52 then unit
    else 2 * unit
  (4 * value.scaled - below, 4 * value.scaled, 4 * value.scaled + 2 * unit)

/-- Whether a ratio lies in the interval that rounds to a number. -/
def accepts (value : Binary64) (numerator denominator : Nat) : Bool :=
  let (low, _, high) := value.interval
  let point := numerator * Nat.pow 2 1076
  if value.magnitude % 2 = 0 then
    low * denominator ≤ point && point ≤ high * denominator
  else low * denominator < point && point < high * denominator

/-- The exponent of the leading decimal digit of a number other than zero. -/
def leadingExponent (value : Binary64) : Int :=
  let whole := value.scaled / Nat.pow 2 1074
  if 0 < whole then (Nat.toDigits 10 whole).length - 1
  else
    let inverse := (Nat.pow 2 1074 + value.scaled - 1) / value.scaled
    let places := (Nat.toDigits 10 (inverse - 1)).length
    (-places : Int)

/-- The decimal with a digit count that denotes the number and is nearest to it. -/
def decimalWith? (value : Binary64) (count : Nat) : Option (Nat × Int) :=
  let exponent := value.leadingExponent - count + 1
  let (numerator, denominator) :=
    if 0 ≤ exponent then (1, Nat.pow 10 exponent.natAbs) else (Nat.pow 10 exponent.natAbs, 1)
  let units := value.scaled * numerator
  let grid := Nat.pow 2 1074 * denominator
  let low := units / grid
  let accepted (digits : Nat) : Bool := value.accepts (digits * denominator) numerator
  let remainder := units % grid
  let nearer :=
    if 2 * remainder < grid then low
    else if 2 * remainder = grid then low + low % 2
    else low + 1
  let farther := if nearer = low then low + 1 else low
  if accepted nearer then some (nearer, exponent)
  else if accepted farther then some (farther, exponent)
  else none

/-- The first count of digits, from `count` up, that has a decimal denoting the number. -/
def searchDecimal (value : Binary64) : Nat → Nat → Nat × Int
  | 0, _ => (0, 0)
  | tries + 1, count =>
    match value.decimalWith? count with
    | some found => found
    | none => searchDecimal value tries (count + 1)

/-- The shortest decimal that denotes the absolute value of a number. -/
def shortest (value : Binary64) : DecimalForm :=
  if value.isZero then ⟨['0'], 1⟩
  else
    let (digits, exponent) := value.searchDecimal 17 1
    let written := Nat.toDigits 10 digits
    let kept := (written.reverse.dropWhile (· == '0')).reverse
    ⟨kept, exponent + written.length⟩

/-- Where positional notation ends, and how the exponent is written beyond it. -/
structure DecimalStyle where
  /-- The least place of the point written positionally. -/
  leastPoint : Int
  /-- The greatest place of the point written positionally. -/
  greatestPoint : Int

/-- Documents write numbers from `1e-5` up to `1e16` positionally. -/
def documentStyle : DecimalStyle := ⟨-4, 16⟩

/-- The decimal text of a form, with `.0` behind whole positional numbers. -/
def DecimalForm.text (style : DecimalStyle) (form : DecimalForm) : List Char :=
  let count := form.digits.length
  if style.leastPoint ≤ form.point && form.point ≤ style.greatestPoint then
    if form.point ≤ 0 then
      ['0', '.'] ++ List.replicate form.point.natAbs '0' ++ form.digits
    else if count ≤ form.point.natAbs then
      form.digits ++ List.replicate (form.point.natAbs - count) '0' ++ ['.', '0']
    else
      form.digits.take form.point.natAbs ++ '.' :: form.digits.drop form.point.natAbs
  else
    let exponent := form.point - 1
    let mark := if exponent < 0 then ['e', '-'] else ['e', '+']
    let mantissa :=
      match form.digits with
      | first :: second :: rest => first :: '.' :: second :: rest
      | digits => digits
    mantissa ++ mark ++ Nat.toDigits 10 exponent.natAbs

/-- The text of a number in a document. -/
def text (value : Binary64) : List Char :=
  let absolute := DecimalForm.text documentStyle value.shortest
  if value.negative then '-' :: absolute else absolute

end Binary64

end Stencil
