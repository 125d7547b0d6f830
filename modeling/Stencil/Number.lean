import Stencil.Number.Shortest
import Stencil.Text.Numeral

/-!
# Numbers of a document

A document holds whole numbers of sixty-four bits, unsigned or negative, and
finite doubles.  The two sorts are kept apart: a whole number and a double are
never the same number, though the order of values compares them numerically.
-/

namespace Stencil

/-- A whole number that fits sixty-four bits, unsigned or negative. -/
structure Whole where
  /-- The integer. -/
  value : Int
  /-- It is no less than the least signed number. -/
  lower : -(Numeral.integerLimit : Int) ≤ value
  /-- It is no greater than the greatest unsigned number. -/
  upper : value < Numeral.countLimit
deriving DecidableEq

/-- A number of a document. -/
inductive Number where
  | whole (integer : Whole)
  | double (float : Binary64)
deriving DecidableEq

namespace Number

/-- An integer as a whole number, or as the nearest double when it does not fit. -/
def ofInt (value : Int) : Number :=
  if fits : -(Numeral.integerLimit : Int) ≤ value ∧ value < Numeral.countLimit then
    .whole ⟨value, fits.1, fits.2⟩
  else .double (Binary64.ofInt value)

@[simp]
theorem ofInt_value (integer : Whole) : ofInt integer.value = .whole integer :=
  dif_pos ⟨integer.lower, integer.upper⟩

/-- A natural number as a number of a document. -/
def ofNat (value : Nat) : Number :=
  ofInt value

instance : Inhabited Number := ⟨ofNat 0⟩

/-- The integer of a whole number within the signed sixty-four bit range. -/
def toSigned? : Number → Option Int
  | .whole integer =>
    if integer.value < Numeral.integerLimit then some integer.value else none
  | .double _ => none

/-- The natural number of a whole number that is not negative. -/
def toCount? : Number → Option Nat
  | .whole integer => if integer.value < 0 then none else some integer.value.natAbs
  | .double _ => none

/-- The nearest double. -/
def toBinary64 : Number → Binary64
  | .whole integer => Binary64.ofInt integer.value
  | .double float => float

/-- Sameness of numbers of one sort; the two zeros among the doubles are the same. -/
def same : Number → Number → Bool
  | .whole left, .whole right => left.value == right.value
  | .double left, .double right => left.compare right == .eq
  | _, _ => false

/--
The order of numbers: integers within the signed range are compared exactly,
and every other pair as doubles.
-/
def compare (left right : Number) : Ordering :=
  match left.toSigned?, right.toSigned? with
  | some first, some second => Ord.compare first second
  | _, _ => left.toBinary64.compare right.toBinary64

/-- The text of a number in a document. -/
def text : Number → List Char
  | .whole integer => Numeral.signedDecimal integer.value
  | .double float => float.text

/-- Split digits into the value of the longest run that fits sixty-four bits and the rest. -/
def gather (total : Nat) : List Char → Nat × List Char
  | [] => (total, [])
  | digit :: rest =>
    let extended := total * 10 + (digit.toNat - '0'.toNat)
    if extended < Numeral.countLimit then gather extended rest
    else (total, digit :: rest)

/--
The number written by a literal with a sign, digits, and perhaps a fraction and
an exponent; nothing when it is beyond the finite doubles.  Without a fraction
and an exponent it is a whole number when it fits, but negative zero is a
double.  Digits beyond sixty-four bits only count towards the power of ten.
-/
def ofLiteral?
    (negative : Bool)
    (digits : List Char)
    (fraction : Option (List Char))
    (exponent : Option Int) :
    Option Number :=
  let (front, dropped) := gather 0 digits
  if fraction.isNone && exponent.isNone && dropped.isEmpty then
    if !negative then some (ofNat front)
    else if front = 0 then some (.double Binary64.zero.negate)
    else if front ≤ Numeral.integerLimit then some (ofInt (-(front : Int)))
    else some (.double (Binary64.ofInt front).negate)
  else
    let places := fraction.getD []
    let (significand, unread) := gather front places
    let power : Int :=
      (dropped.length : Int) - (places.length - unread.length : Nat) + exponent.getD 0
    ((Binary64.ofInt significand).scaleByTen? power).map fun absolute =>
      .double (if negative then absolute.negate else absolute)

end Number

end Stencil
