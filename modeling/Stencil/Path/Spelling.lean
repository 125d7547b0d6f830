import Stencil.Path.Segment
import Stencil.Text.Blank

/-!
# Spellings of locations

A singular path names at most one place: `$`, then any mix of dotted names,
quoted names in brackets and indices in brackets.  Blanks may stand around a
dotted name and inside brackets.  Each reader returns what it read and the
characters behind it.
-/

namespace Stencil.Location

/-- Whether a character may stand in a dotted name. -/
def isNameCharacter (character : Char) : Bool :=
  !(['.', '[', ']', '*', '\'', '"'].contains character)

/-- A dotted name, behind its dot: the run of name characters without blanks around it. -/
def readDotted (characters : List Char) : Option (Segment × List Char) :=
  let name := Text.trim (characters.takeWhile isNameCharacter)
  if name.isEmpty then none
  else some (.member (String.ofList name), characters.dropWhile isNameCharacter)

/-- The character that an escaped one stands for. -/
def unescape : Char → Char
  | 'n' => '\n'
  | 't' => '\t'
  | 'r' => '\r'
  | other => other

/-- The rest of a quoted name, up to the mark that opened it. -/
def readQuotedName (quote : Char) : List Char → Option (List Char × List Char)
  | [] => none
  | ['\\'] => none
  | '\\' :: escaped :: rest =>
    (readQuotedName quote rest).map fun read => (unescape escaped :: read.1, read.2)
  | character :: rest =>
    if character = quote then some ([], rest)
    else (readQuotedName quote rest).map fun read => (character :: read.1, read.2)

/-- An index: digits whose value fits sixty-four bits. -/
def readIndex (characters : List Char) : Option (Segment × List Char) :=
  ((Numeral.natural? 10 (characters.takeWhile Numeral.isDigit)).filter
    (· < Numeral.countLimit)).map fun position =>
      (.index position, characters.dropWhile Numeral.isDigit)

/-- What stands between brackets, without the blanks around it. -/
def readSelector (characters : List Char) : Option (Segment × List Char) :=
  let named (quote : Char) (rest : List Char) : Option (Segment × List Char) :=
    (readQuotedName quote rest).map fun read =>
      (.member (String.ofList read.1), read.2)
  match characters with
  | '\'' :: rest => named '\'' rest
  | '"' :: rest => named '"' rest
  | _ => readIndex characters

/-- A bracketed segment, behind its opening bracket. -/
def readBracketed (characters : List Char) : Option (Segment × List Char) :=
  match readSelector (Text.trimStart characters) with
  | none => none
  | some (segment, behind) =>
    match Text.trimStart behind with
    | ']' :: rest => some (segment, rest)
    | _ => none

/-- One segment of a path. -/
def readSegment : List Char → Option (Segment × List Char)
  | '.' :: rest => readDotted rest
  | '[' :: rest => readBracketed rest
  | _ => none

/-- Segments up to the end of the path; the first argument bounds their number. -/
def readSegments : Nat → List Char → Option Location
  | _, [] => some []
  | 0, _ :: _ => none
  | fuel + 1, characters =>
    match readSegment characters with
    | none => none
    | some (segment, rest) => (readSegments fuel rest).map (segment :: ·)

/-- The location that a root-qualified singular path names. -/
def read? : List Char → Option Location
  | '$' :: rest => readSegments rest.length rest
  | _ => none

end Stencil.Location
