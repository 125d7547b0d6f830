import Stencil.Number.Binary64
import Stencil.Text.Numeral

/-!
# Decimals

A decimal is written with an optional sign, digits with an optional point among
or around them, and an optional exponent.  It is read as the nearest double.
-/

namespace Stencil.Decimal

/-- The sign in front, if any, and what follows it. -/
def splitSign : List Char → Bool × List Char
  | '-' :: rest => (true, rest)
  | '+' :: rest => (false, rest)
  | characters => (false, characters)

/-- The digits behind a point, and what follows them. -/
def splitFraction : List Char → List Char × List Char
  | '.' :: rest => (rest.takeWhile Numeral.isDigit, rest.dropWhile Numeral.isDigit)
  | characters => ([], characters)

/-- The exponent that makes up the rest of a decimal; zero when nothing is left. -/
def exponent? : List Char → Option Int
  | [] => some 0
  | mark :: rest =>
    if mark = 'e' || mark = 'E' then
      let (negative, digits) := splitSign rest
      (Numeral.natural? 10 digits).map fun value =>
        if negative then -(value : Int) else value
    else none

/-- The double that a decimal denotes; nothing when it is beyond the finite ones. -/
def read? (characters : List Char) : Option Binary64 :=
  let (negative, unsigned) := splitSign characters
  let whole := unsigned.takeWhile Numeral.isDigit
  let (fraction, rest) := splitFraction (unsigned.dropWhile Numeral.isDigit)
  match Numeral.natural? 10 (whole ++ fraction), exponent? rest with
  | some digits, some exponent =>
    Binary64.ofDecimal? negative digits (exponent - fraction.length)
  | _, _ => none

end Stencil.Decimal
