import Stencil.Operator.Token

/-!
# Taking matches

The token `+` keeps all matches of a path as a sequence, and a count behind it
keeps the first ones.
-/

namespace Stencil

/-- How many matches are kept; all of them without a count. -/
structure Take where
  /-- The greatest number of matches. -/
  count : Option Nat
deriving DecidableEq

namespace Take

/-- The operator a trimmed token stands for. -/
def ofChars? : List Char → Option Take
  | ['+'] => some ⟨none⟩
  | '+' :: digits =>
    if digits.all Numeral.isDigit then
      ((Numeral.natural? 10 digits).filter (· < Numeral.countLimit)).map fun count =>
        ⟨some count⟩
    else none
  | _ => none

/-- The operator a token stands for. -/
def parse (token : String) : Except TokenError Take :=
  match ofChars? (Text.trim token.toList) with
  | some take => .ok take
  | none => .error (.unknown .query token)

/-- The characters of the token of an operator. -/
def chars (take : Take) : List Char :=
  match take.count with
  | some count => '+' :: Numeral.decimal count
  | none => ['+']

/-- The token of an operator. -/
def display (take : Take) : String :=
  String.ofList take.chars

end Take

end Stencil
