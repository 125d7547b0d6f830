import Stencil.Settings.Yaml.Layout
import Stencil.Text.Escape

/-!
# Scalars of indented texts

A scalar on a line is plain or quoted in one of two ways.  It may go on over
several lines, which are folded: one line break becomes a blank, and of several
the first is dropped.
-/

namespace Stencil.Yaml

/-- Whether a cell is a blank or a line break. -/
def Cell.isGap (cell : Cell) : Bool :=
  cell.isBlank || cell.isBreak

/-- The cells of a gap in front, and what follows them. -/
def spanGap (cells : List Cell) : List Cell × List Cell :=
  (cells.takeWhile Cell.isGap, cells.dropWhile Cell.isGap)

/-- The marks that separate the parts of a flow. -/
def flowMarks : List Char := [',', '[', ']', '\x7b', '\x7d']

/-- The marks that do not start a plain scalar by themselves. -/
def leadingMarks : List Char :=
  ['-', '?', ':', ',', '[', ']', '\x7b', '\x7d', '#', '&', '*', '!', '|', '>', '\'', '"', '%',
    '@', '\x60']

/-- Whether a plain scalar starts here. -/
def startsPlain (flow : Bool) : List Cell → Bool
  | [] => false
  | cell :: rest =>
    !cell.isGap &&
      (!leadingMarks.contains cell.character
        || (cell.character = '-' && !endsWord rest)
        || (!flow && (cell.character = '?' || cell.character = ':') && !endsWord rest))

/-- The word of a plain scalar in front, unless a colon stands before a mark of a flow. -/
def readWord (flow : Bool) : List Cell → Option (List Char × List Cell)
  | [] => some ([], [])
  | cell :: rest =>
    let marked :=
      match rest with
      | next :: _ => next.character = '?' || flowMarks.contains next.character
      | [] => false
    if cell.isGap then some ([], cell :: rest)
    else if flow && cell.character = ':' && marked then none
    else if cell.character = ':' && endsWord rest then some ([], cell :: rest)
    else if flow && flowMarks.contains cell.character then some ([], cell :: rest)
    else (readWord flow rest).map fun read => (cell.character :: read.1, read.2)

/-- Whether a tab stands where lines have to be indented. -/
def tabInIndentation (floor : Nat) (gap : List Cell) : Bool :=
  (gap.dropWhile fun cell => !cell.isBreak).any fun cell =>
    cell.character = '\t' && cell.column < floor

/-- A plain scalar, whose further lines start at the column `floor` or behind it. -/
def readPlain (flow : Bool) (floor : Nat) : Nat → List Cell → Option (List Char × List Cell)
  | 0, _ => none
  | fuel + 1, cells =>
    match readWord flow cells with
    | none => none
    | some (word, rest) =>
      let (gap, next) := spanGap rest
      let indented :=
        match next with
        | [] => false
        | cell :: _ => flow || floor ≤ cell.column
      let stops :=
        match next with
        | [] => true
        | cell :: _ =>
          gap.isEmpty || cell.character = '#' || isBoundary next || !indented
            || isIndicator ':' next || (flow && flowMarks.contains cell.character)
      if tabInIndentation floor gap then none
      else if stops then some (word, rest)
      else
        (readPlain flow floor fuel next).map fun read =>
          (word ++ folded gap ++ read.1, read.2)

/-- A single-quoted scalar, behind its opening quote; a quote inside is written twice. -/
def readSingle : Nat → List Cell → Option (List Char × List Cell)
  | 0, _ | _, [] => none
  | fuel + 1, cell :: rest =>
    if isBoundary (cell :: rest) then none
    else if cell.character = '\'' then
      match rest with
      | next :: behind =>
        if next.character = '\'' then
          (readSingle fuel behind).map fun read => ('\'' :: read.1, read.2)
        else some ([], rest)
      | [] => some ([], [])
    else if cell.isGap then
      let (gap, next) := spanGap (cell :: rest)
      (readSingle fuel next).map fun read => (folded gap ++ read.1, read.2)
    else (readSingle fuel rest).map fun read => (cell.character :: read.1, read.2)

/-- The character that an escape names by one letter. -/
def simpleEscape? : Char → Option Char
  | '0' => some '\x00'
  | 'a' => some '\x07'
  | 'b' => some '\x08'
  | 't' => some '\t'
  | '\t' => some '\t'
  | 'n' => some '\n'
  | 'v' => some '\x0b'
  | 'f' => some '\x0c'
  | 'r' => some '\r'
  | 'e' => some '\x1b'
  | ' ' => some ' '
  | '"' => some '"'
  | '/' => some '/'
  | '\\' => some '\\'
  | 'N' => some '\x85'
  | '_' => some '\xa0'
  | 'L' => some '\u2028'
  | 'P' => some '\u2029'
  | _ => none

/-- The character whose code point has so many hexadecimal digits, and what follows it. -/
def readCode (count : Nat) (cells : List Cell) : Option (Char × List Cell) :=
  (Text.hexadecimal? count ((cells.take count).map Cell.character)).bind fun (code, _) =>
    (Text.character? code).map fun character => (character, cells.drop count)

/-- The characters that an escape stands for, behind its backslash. -/
def readEscape : List Cell → Option (List Char × List Cell)
  | [] => none
  | cell :: rest =>
    let coded (count : Nat) : Option (List Char × List Cell) :=
      (readCode count rest).map fun (character, behind) => ([character], behind)
    match cell.character with
    | '\n' =>
      let (gap, next) := spanGap rest
      some (List.replicate (gap.filter Cell.isBreak).length '\n', next)
    | 'x' => coded 2
    | 'u' => coded 4
    | 'U' => coded 8
    | letter => (simpleEscape? letter).map fun character => ([character], rest)

/-- A double-quoted scalar, behind its opening quote. -/
def readDouble : Nat → List Cell → Option (List Char × List Cell)
  | 0, _ | _, [] => none
  | fuel + 1, cell :: rest =>
    if isBoundary (cell :: rest) then none
    else if cell.character = '"' then some ([], rest)
    else if cell.character = '\\' then
      (readEscape rest).bind fun (characters, behind) =>
        (readDouble fuel behind).map fun read => (characters ++ read.1, read.2)
    else if cell.isGap then
      let (gap, next) := spanGap (cell :: rest)
      (readDouble fuel next).map fun read => (folded gap ++ read.1, read.2)
    else (readDouble fuel rest).map fun read => (cell.character :: read.1, read.2)

end Stencil.Yaml
