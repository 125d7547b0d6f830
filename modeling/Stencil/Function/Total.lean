import Stencil.Value.Basic

/-!
# Totals

The sum of numbers is an integer as long as every item and every total on the
way fits the signed sixty-four bits.  From the first one that does not, it is a
double, and a double that leaves the finite numbers never comes back.
-/

namespace Stencil

/-- A sum on its way: exact, rounded, or nothing once it is not finite. -/
inductive Total where
  | exact (value : Int)
  | rounded (value : Binary64)
  | lost
deriving DecidableEq

namespace Total

/-- Whether an integer fits the signed sixty-four bits. -/
def fits (value : Int) : Bool :=
  -(Numeral.integerLimit : Int) ≤ value && value < Numeral.integerLimit

/-- A rounded total, or a lost one. -/
def ofDouble? : Option Binary64 → Total
  | some value => .rounded value
  | none => .lost

/-- The total with one more number. -/
def add : Total → Number → Total
  | .exact value, item =>
    match item.toSigned? with
    | some term =>
      if fits (value + term) then .exact (value + term)
      else ofDouble? ((Binary64.ofInt value).add? (Binary64.ofInt term))
    | none => ofDouble? ((Binary64.ofInt value).add? item.toBinary64)
  | .rounded value, item => ofDouble? (value.add? item.toBinary64)
  | .lost, _ => .lost

/-- The number that a total is, unless it was lost. -/
def number? : Total → Option Number
  | .exact value => some (.ofInt value)
  | .rounded value => some (.double value)
  | .lost => none

end Total

end Stencil
