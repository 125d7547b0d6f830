import Stencil.Text.CaseTable

/-!
# Upper and lower case

Every character is mapped by itself, to one character or to several, except
the capital sigma: its lower case has a form of its own at the end of a word.
A word ends behind a cased character when no cased character follows, and marks
inside the word are passed over on both sides.
-/

namespace Stencil.Text

/-- Whether a code point lies in one of the ranges of a table. -/
def inRanges (ranges : List (Nat × Nat)) (code : Nat) : Bool :=
  ranges.any fun range => range.1 ≤ code && code ≤ range.2

/-- The code point a table of runs maps to, when one of its runs has the code point. -/
def runImage? (runs : List CaseRun) (code : Nat) : Option Nat :=
  (runs.find? fun (first, last, step, _) =>
    first ≤ code && code ≤ last && (code - first) % step == 0).map
      fun (_, _, _, offset) => ((code : Int) + offset).toNat

/-- A character mapped by a table of runs and a table of expansions. -/
def mapCase (runs : List CaseRun) (expansions : List (Nat × List Nat)) (character : Char) :
    List Char :=
  match runImage? runs character.toNat with
  | some code => [Char.ofNat code]
  | none =>
    match expansions.lookup character.toNat with
    | some codes => codes.map Char.ofNat
    | none => [character]

/-- The upper case of a character. -/
def upperCharacter (character : Char) : List Char :=
  mapCase upperRuns upperExpansions character

/-- The lower case of a character that is not at the end of a word. -/
def lowerCharacter (character : Char) : List Char :=
  mapCase lowerRuns lowerExpansions character

/-- Whether the first character that is not passed over is cased. -/
def cased (characters : List Char) : Bool :=
  match characters.dropWhile fun character => inRanges ignorableRanges character.toNat with
  | [] => false
  | character :: _ => inRanges casedRanges character.toNat

/-- The lower case of the rest of a text, with what precedes it in reverse. -/
def lowerFrom (before : List Char) : List Char → List Char
  | [] => []
  | character :: rest =>
    let image :=
      if character = 'Σ' then
        if cased before && !cased rest then ['ς'] else ['σ']
      else lowerCharacter character
    image ++ lowerFrom (character :: before) rest

/-- A text in upper case. -/
def upper (text : String) : String :=
  String.ofList (text.toList.flatMap upperCharacter)

/-- A text in lower case. -/
def lower (text : String) : String :=
  String.ofList (lowerFrom [] text.toList)

end Stencil.Text
