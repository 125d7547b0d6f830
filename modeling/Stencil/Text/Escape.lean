import Stencil.Text.Numeral

/-!
# Code points in hexadecimal

Quoted texts name code points by hexadecimal digits.  A code point beyond the
sixteen-bit range may be written as two surrogate halves, which are joined
here; a lone half names no character.
-/

namespace Stencil.Text

/-- The number written by exactly `count` hexadecimal digits, and what follows them. -/
def hexadecimal? (count : Nat) (characters : List Char) : Option (Nat × List Char) :=
  let digits := characters.take count
  if digits.length = count then
    (Numeral.natural? 16 digits).map fun value => (value, characters.drop count)
  else none

/-- Whether a code unit is the first half of a pair. -/
def isHighSurrogate (unit : Nat) : Bool :=
  0xD800 ≤ unit && unit < 0xDC00

/-- Whether a code unit is the second half of a pair. -/
def isLowSurrogate (unit : Nat) : Bool :=
  0xDC00 ≤ unit && unit < 0xE000

/-- The code point of a pair of halves. -/
def joinSurrogates (high low : Nat) : Nat :=
  0x10000 + (high - 0xD800) * 0x400 + (low - 0xDC00)

/-- The character with a code point, unless it is a surrogate half or too great. -/
def character? (code : Nat) : Option Char :=
  if valid : code.isValidChar then some (Char.ofNatAux code valid) else none

/--
The character written behind `\u`: four digits, or a first half followed by an
escaped second half.
-/
def escapedUnits? (characters : List Char) : Option (Char × List Char) :=
  match hexadecimal? 4 characters with
  | none => none
  | some (unit, rest) =>
    if isHighSurrogate unit then
      match rest with
      | '\\' :: 'u' :: second =>
        match hexadecimal? 4 second with
        | some (low, behind) =>
          if isLowSurrogate low then
            (character? (joinSurrogates unit low)).map fun character => (character, behind)
          else none
        | none => none
      | _ => none
    else (character? unit).map fun character => (character, rest)

end Stencil.Text
