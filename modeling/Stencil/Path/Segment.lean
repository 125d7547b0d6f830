import Stencil.Value.Text

/-!
# Locations

A location is a sequence of segments, each a member name or an array index,
followed from the root of a document.  Its canonical text starts with `$`;
names that are identifiers follow a dot, all others stand quoted in brackets,
and so do indices, unquoted.
-/

namespace Stencil

/-- One step of a location. -/
inductive Segment where
  | member (name : String)
  | index (position : Nat)
deriving DecidableEq

/-- The segments from the root of a document to one place in it. -/
abbrev Location := List Segment

/-- Whether a character may begin an identifier. -/
def isIdentifierStart (character : Char) : Bool :=
  ('A' ≤ character && character ≤ 'Z') || ('a' ≤ character && character ≤ 'z')
    || character = '_' || character = '$'

/-- Whether a character may continue an identifier. -/
def isIdentifierPart (character : Char) : Bool :=
  isIdentifierStart character || Numeral.isDigit character

/-- Whether a name can be written behind a dot. -/
def isIdentifier : List Char → Bool
  | [] => false
  | first :: rest => isIdentifierStart first && rest.all isIdentifierPart

namespace Segment

/-- The canonical text of a segment. -/
def chars : Segment → List Char
  | .member name =>
    if isIdentifier name.toList then '.' :: name.toList
    else '[' :: (Value.quoted name.toList ++ [']'])
  | .index position => '[' :: (Numeral.decimal position ++ [']'])

end Segment

namespace Location

/-- The location one step further. -/
def child (location : Location) (segment : Segment) : Location :=
  location ++ [segment]

/-- The characters of the canonical text of a location. -/
def chars (location : Location) : List Char :=
  '$' :: location.flatMap Segment.chars

/-- The canonical text of a location. -/
def text (location : Location) : String :=
  String.ofList (chars location)

end Location

end Stencil
