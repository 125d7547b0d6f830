import Stencil.Text.Blank

/-!
# Pieces of a text

A text is cut at every occurrence of a separator.  Cutting always leaves one
piece more than there are separators, empty pieces included.
-/

namespace Stencil.Text

/-- The pieces between the occurrences of a character. -/
def cutAt (separator : Char) : List Char → List (List Char)
  | [] => [[]]
  | character :: rest =>
    if character = separator then [] :: cutAt separator rest
    else
      match cutAt separator rest with
      | piece :: pieces => (character :: piece) :: pieces
      | [] => [[character]]

/-- Arguments written with colons between them, each without the blanks around it. -/
def arguments (characters : List Char) : List (List Char) :=
  (cutAt ':' characters).map trim

/-- The characters behind a text, when it stands in front. -/
def behind? : List Char → List Char → Option (List Char)
  | [], characters => some characters
  | _ :: _, [] => none
  | expected :: front, character :: rest =>
    if expected = character then behind? front rest else none

/--
The pieces between the occurrences of a separator that is not empty, from left
to right and without overlap.  The argument `skip` counts the characters of the
last occurrence that are still to be passed over.
-/
def cutFrom (separator : List Char) : Nat → List Char → List (List Char)
  | _, [] => [[]]
  | skip + 1, _ :: rest => cutFrom separator skip rest
  | 0, character :: rest =>
    match behind? separator (character :: rest) with
    | some _ => [] :: cutFrom separator (separator.length - 1) rest
    | none =>
      match cutFrom separator 0 rest with
      | piece :: pieces => (character :: piece) :: pieces
      | [] => [[character]]

/--
The pieces between the occurrences of a separator.  The empty separator occurs
in front of every character and at the end.
-/
def cut (separator characters : List Char) : List (List Char) :=
  if separator.isEmpty then [] :: (characters.map fun character => [character]) ++ [[]]
  else cutFrom separator 0 characters

/-- The pieces with a separator between them. -/
def glue (separator : List Char) : List (List Char) → List Char
  | [] => []
  | [piece] => piece
  | piece :: next :: pieces => piece ++ separator ++ glue separator (next :: pieces)

end Stencil.Text
