import Stencil.Text.Numeral

/-!
# Layout of indented texts

In an indented text the column of a token decides where it belongs.  Every
character is therefore read together with its line and its column.  Blanks,
comments and line breaks make up the gaps between tokens.
-/

namespace Stencil.Yaml

/-- A character and its place in the text. -/
structure Cell where
  /-- The character. -/
  character : Char
  /-- The line, counted from zero. -/
  line : Nat
  /-- The column, counted from zero. -/
  column : Nat
deriving DecidableEq

/-- The cells of characters from a place on; every kind of line break becomes one character. -/
def layout (line column : Nat) : List Char → List Cell
  | [] => []
  | '\r' :: '\n' :: rest => ⟨'\n', line, column⟩ :: layout (line + 1) 0 rest
  | '\n' :: rest | '\r' :: rest | '\x85' :: rest =>
    ⟨'\n', line, column⟩ :: layout (line + 1) 0 rest
  | character :: rest => ⟨character, line, column⟩ :: layout line (column + 1) rest

/-- Whether a character may stand in a text. -/
def isAllowed (character : Char) : Bool :=
  let code := character.toNat
  character = '\t' || character = '\n' || character = '\r' || code = 0x85
    || (0x20 ≤ code && code ≤ 0x7E) || (0xA0 ≤ code && code != 0xFEFF && code != 0xFFFE
      && code != 0xFFFF)

/-- Whether a cell is a blank. -/
def Cell.isBlank (cell : Cell) : Bool :=
  cell.character = ' ' || cell.character = '\t'

/-- Whether a cell is a line break. -/
def Cell.isBreak (cell : Cell) : Bool :=
  cell.character = '\n'

/-- Whether a word ends here: at a blank, a line break or the end. -/
def endsWord : List Cell → Bool
  | [] => true
  | cell :: _ => cell.isBlank || cell.isBreak

/-- Whether a mark stands here as a word of its own. -/
def isIndicator (mark : Char) : List Cell → Bool
  | [] => false
  | cell :: rest => cell.character = mark && endsWord rest

/-- Whether three marks stand at the start of a line as a word of their own. -/
def isRule (mark : Char) : List Cell → Bool
  | first :: second :: third :: rest =>
    first.column = 0 && first.character = mark && second.character = mark
      && third.character = mark && endsWord rest
  | _ => false

/-- Whether a document starts or ends here. -/
def isBoundary (cells : List Cell) : Bool :=
  isRule '-' cells || isRule '.' cells

/-- The cells behind a comment, which goes on to the end of its line. -/
def skipComment (cells : List Cell) : List Cell :=
  cells.dropWhile fun cell => !cell.isBreak

/--
Pass over a gap between blocks.  The flag says whether a block may start here,
which is so behind a line break; where it may, tabs do not count as blanks.
-/
def skipGap : Nat → Bool → List Cell → Bool × List Cell
  | 0, fresh, cells => (fresh, cells)
  | _ + 1, fresh, [] => (fresh, [])
  | fuel + 1, fresh, cell :: rest =>
    if cell.isBreak then skipGap fuel true rest
    else if cell.character = '#' then skipGap fuel fresh (skipComment rest)
    else if cell.character = ' ' || (cell.character = '\t' && !fresh) then
      skipGap fuel fresh rest
    else (fresh, cell :: rest)

/-- The next token behind a gap, and whether a block may start with it. -/
def nextToken (fresh : Bool) (cells : List Cell) : Bool × List Cell :=
  skipGap cells.length fresh cells

/-- The cells behind the blanks on a line. -/
def skipBlanks (cells : List Cell) : List Cell :=
  cells.dropWhile Cell.isBlank

/-- Pass over a gap between brackets, where neither lines nor tabs count. -/
def skipFlow : Nat → List Cell → List Cell
  | 0, cells => cells
  | _ + 1, [] => []
  | fuel + 1, cell :: rest =>
    if cell.isBreak || cell.isBlank then skipFlow fuel rest
    else if cell.character = '#' then skipFlow fuel (skipComment rest)
    else cell :: rest

/-- The next token between brackets. -/
def nextFlow (cells : List Cell) : List Cell :=
  skipFlow cells.length cells

/-- The blanks and line breaks that join two parts of a text on several lines. -/
def folded (gap : List Cell) : List Char :=
  let breaks := (gap.filter Cell.isBreak).length
  if breaks = 0 then gap.map Cell.character
  else if breaks = 1 then [' ']
  else List.replicate (breaks - 1) '\n'

end Stencil.Yaml
