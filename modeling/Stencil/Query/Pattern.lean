import Stencil.Text.Case
import Stencil.Text.WordRanges
import Stencil.Text.Blank

/-!
# Patterns

A pattern describes a set of texts.  It is matched by the places it can end at
when it starts at a given place, so a pattern with choices or repetitions costs
no more than the number of places in the text allows.
-/

namespace Stencil

/-- A set of characters. -/
inductive CharacterSet where
  | range (first last : Nat)
  | digit
  | word
  | blank
  | complement (set : CharacterSet)
  | union (left right : CharacterSet)
  | intersection (left right : CharacterSet)
  | difference (left right : CharacterSet)
  | symmetric (left right : CharacterSet)

namespace CharacterSet

/-- The set without characters. -/
def empty : CharacterSet := .range 1 0

/-- Whether a set holds a character. -/
def contains (character : Char) : CharacterSet → Bool
  | .range first last => first ≤ character.toNat && character.toNat ≤ last
  | .digit => Text.inRanges Text.digitRanges character.toNat
  | .word => Text.inRanges Text.wordRanges character.toNat
  | .blank => Text.isBlank character
  | .complement set => !set.contains character
  | .union left right => left.contains character || right.contains character
  | .intersection left right => left.contains character && right.contains character
  | .difference left right => left.contains character && !right.contains character
  | .symmetric left right => left.contains character != right.contains character

/-- The characters that differ from one only in case, itself included. -/
def caseVariants (character : Char) : List Char :=
  let single : List Char → List Char
    | [other] => [other]
    | _ => []
  let lowered := single (Text.lowerCharacter character)
  let raised := single (Text.upperCharacter character)
  character :: (lowered ++ raised ++ raised.flatMap (single ∘ Text.lowerCharacter)
    ++ lowered.flatMap (single ∘ Text.upperCharacter))

end CharacterSet

/-- A place condition that consumes no character. -/
inductive Assertion where
  | textStart
  | textEnd
  | lineStart
  | lineEnd
  | wordBoundary
  | wordInterior

/-- A pattern. -/
inductive Pattern where
  | empty
  | oneOf (foldCase : Bool) (set : CharacterSet)
  | assertion (condition : Assertion)
  | sequence (first second : Pattern)
  | choice (left right : Pattern)
  | repetition (body : Pattern) (least : Nat) (most : Option Nat)

namespace Assertion

/-- Whether a place condition holds in front of the character at a place. -/
def holds (text : Array Char) (place : Nat) (condition : Assertion) : Bool :=
  let behind? := if place = 0 then none else text[place - 1]?
  let ahead? := text[place]?
  let inWord : Option Char → Bool
    | some character => CharacterSet.word.contains character
    | none => false
  match condition with
  | .textStart => place == 0
  | .textEnd => place == text.size
  | .lineStart =>
    place == 0 || behind? == some '\n' || (behind? == some '\r' && ahead? != some '\n')
  | .lineEnd =>
    place == text.size || ahead? == some '\r' || (ahead? == some '\n' && behind? != some '\r')
  | .wordBoundary => inWord behind? != inWord ahead?
  | .wordInterior => inWord behind? == inWord ahead?

end Assertion

namespace Pattern

/-- The places of both lists, each once. -/
def merge (left right : List Nat) : List Nat :=
  left ++ right.filter fun place => !left.contains place

/-- The places that one more step leads to. -/
def advance (step : Nat → List Nat) (places : List Nat) : List Nat :=
  places.foldl (fun found place => merge found (step place)) []

/-- The places reached by at most `rounds` steps, those already `found` included. -/
def closure (step : Nat → List Nat) : Nat → List Nat → List Nat → List Nat
  | 0, found, _ => found
  | rounds + 1, found, recent =>
    let fresh := (advance step recent).filter fun place => !found.contains place
    if fresh.isEmpty then found else closure step rounds (found ++ fresh) fresh

/-- The places reached by exactly `count` steps. -/
def iterate (step : Nat → List Nat) : Nat → List Nat → List Nat
  | 0, places => places
  | count + 1, places => iterate step count (advance step places)

/-- The places at which a match that starts at a place can end. -/
def ends (text : Array Char) : Pattern → Nat → List Nat
  | .empty, place => [place]
  | .oneOf foldCase set, place =>
    match text[place]? with
    | some character =>
      let variants := if foldCase then CharacterSet.caseVariants character else [character]
      if variants.any fun variant => set.contains variant then [place + 1] else []
    | none => []
  | .assertion condition, place => if condition.holds text place then [place] else []
  | .sequence first second, place => advance (ends text second) (ends text first place)
  | .choice left right, place => merge (ends text left place) (ends text right place)
  | .repetition body least most, place =>
    let start := iterate (ends text body) least [place]
    let rounds :=
      match most with
      | some bound => min (bound - least) (text.size + 1)
      | none => text.size + 1
    closure (ends text body) rounds start start

/-- Whether a match starts at some place of a text. -/
def occursIn (pattern : Pattern) (text : String) : Bool :=
  let characters := text.toList.toArray
  (List.range (characters.size + 1)).any fun place => !(pattern.ends characters place).isEmpty

end Pattern

end Stencil
