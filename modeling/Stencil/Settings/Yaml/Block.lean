import Stencil.Settings.Yaml.Layout

/-!
# Blocks of lines

A scalar may be a block of indented lines behind a header.  Its lines are kept
or folded, and the line breaks at its end are dropped, reduced to one or kept.
The indentation is announced in the header or found at the first line that is
not empty.
-/

namespace Stencil.Yaml

/-- What happens to the line breaks at the end of a block. -/
inductive Chomping where
  | strip
  | clip
  | keep
deriving DecidableEq

/-- How a block of lines is announced. -/
structure BlockHeader where
  /-- Whether its lines are folded. -/
  fold : Bool
  /-- What happens to its last line breaks. -/
  chomping : Chomping := .clip
  /-- How far its lines are indented, when that is announced. -/
  increment : Option Nat := none
deriving DecidableEq

/-- The chomping that a mark stands for. -/
def Chomping.ofMark? : Char → Option Chomping
  | '+' => some .keep
  | '-' => some .strip
  | _ => none

/-- The header with the chomping of the mark in front, if there is one. -/
def readChomping (header : BlockHeader) (cells : List Cell) : BlockHeader × List Cell :=
  match cells with
  | [] => (header, [])
  | cell :: rest =>
    match Chomping.ofMark? cell.character with
    | some chomping => ({ header with chomping }, rest)
    | none => (header, cells)

/-- The header with the increment of the digit in front, if there is one; zero is none. -/
def readIncrement (header : BlockHeader) (cells : List Cell) :
    Option (BlockHeader × List Cell) :=
  match cells with
  | [] => some (header, [])
  | cell :: rest =>
    match Numeral.digitValue? 10 cell.character with
    | some 0 => none
    | some increment => some ({ header with increment := some increment }, rest)
    | none => some (header, cells)

/-- The header that the marks in front stand for, a chomping and an increment in either order. -/
def readHeader (fold : Bool) (cells : List Cell) : Option (BlockHeader × List Cell) :=
  let (header, behindChomping) := readChomping { fold } cells
  match readIncrement header behindChomping with
  | none => none
  | some (announced, behind) =>
    if behindChomping.length < cells.length then some (announced, behind)
    else some (readChomping announced behind)

/-- A line and whether a line break ends it. -/
structure BlockLine where
  /-- The cells of the line. -/
  cells : List Cell
  /-- Whether it ends with a line break. -/
  ended : Bool

namespace BlockLine

/-- How many spaces stand in front of a line. -/
def indentation (line : BlockLine) : Nat :=
  (line.cells.takeWhile fun cell => cell.character = ' ').length

/-- Whether a line has nothing but spaces. -/
def isBlank (line : BlockLine) : Bool :=
  line.indentation = line.cells.length

/-- Whether a tab stands behind the spaces in front of a line. -/
def isTabbed (line : BlockLine) : Bool :=
  match line.cells.drop line.indentation with
  | cell :: _ => cell.character = '\t'
  | [] => false

/-- Whether a line belongs to a block of some width: it is empty or indented so far. -/
def belongs (width : Nat) (line : BlockLine) : Bool :=
  width ≤ line.indentation || line.isBlank

/-- The characters of a line of a block of some width. -/
def content (width : Nat) (line : BlockLine) : List Char :=
  (line.cells.drop width).map Cell.character

end BlockLine

/-- The lines of cells. -/
def splitLines : List Cell → List BlockLine
  | [] => []
  | cell :: rest =>
    if cell.isBreak then ⟨[], true⟩ :: splitLines rest
    else
      match splitLines rest with
      | line :: lines => ⟨cell :: line.cells, line.ended⟩ :: lines
      | [] => [⟨[cell], false⟩]

/-- The cells of lines. -/
def joinCells (place : Cell) (lines : List BlockLine) : List Cell :=
  lines.flatMap fun line => line.cells ++ (if line.ended then [place] else [])

/--
The width of a block whose content starts at the column `floor` or behind it.
Without an increment it is that of the first line that is not blank, but no
less than that of the blank lines in front; in those lines tabs are refused.
-/
def blockWidth? (floor : Nat) (header : BlockHeader) (lines : List BlockLine) : Option Nat :=
  match header.increment with
  | some increment => some (floor - 1 + increment)
  | none =>
    let leading := lines.takeWhile BlockLine.isBlank
    let front := leading ++ (lines.drop leading.length).head?.toList
    if front.any BlockLine.isTabbed then none
    else some (max ((front.map BlockLine.indentation).foldl max 0) (max floor 1))

/-- Whether a line starts with a blank. -/
def startsBlank : List Char → Bool
  | ' ' :: _ | '\t' :: _ => true
  | _ => false

/--
The text of lines up to the last one that is not empty.  What stands in front
of it is given: the line before and the count of empty lines since.
-/
def joinLines (fold : Bool) : Option (List Char) → Nat → List (List Char) → List Char
  | _, _, [] => []
  | before, empties, [] :: rest => joinLines fold before (empties + 1) rest
  | before, empties, line :: rest =>
    let joint :=
      match before with
      | none => List.replicate empties '\n'
      | some previous =>
        if fold && !startsBlank previous && !startsBlank line then
          if empties = 0 then [' '] else List.replicate empties '\n'
        else List.replicate (empties + 1) '\n'
    joint ++ line ++ joinLines fold (some line) 0 rest

/-- The line breaks that chomping leaves at the end of a block of some width. -/
def finalBreaks (chomping : Chomping) (width : Nat) (block : List BlockLine) : List Char :=
  let isEmpty (line : BlockLine) : Bool := (line.content width).isEmpty
  let empties := (block.reverse.takeWhile isEmpty).filter BlockLine.ended
  let last :=
    match block.reverse.dropWhile isEmpty with
    | line :: _ => if line.ended then ['\n'] else []
    | [] => []
  match chomping with
  | .strip => []
  | .clip => last
  | .keep => last ++ List.replicate empties.length '\n'

/--
A block of lines, behind its first mark, whose content starts at the column
`floor` or behind it.  A line break is left to what follows.
-/
def readBlock (fold : Bool) (floor : Nat) (cells : List Cell) :
    Option (List Char × List Cell) :=
  match readHeader fold cells with
  | none => none
  | some (header, behindHeader) =>
    let behindBlanks := skipBlanks behindHeader
    let commented := (behindBlanks.head?.map Cell.character) = some '#'
    match if commented then skipComment behindBlanks else behindBlanks with
    | [] => some ([], [])
    | place :: rest =>
      if !place.isBreak then none
      else
        let lines := splitLines rest
        match blockWidth? floor header lines with
        | none => none
        | some width =>
          let block := lines.takeWhile (BlockLine.belongs width)
          let others := lines.drop block.length
          if (others.head?.map BlockLine.isTabbed).getD false then none
          else
            let body := joinLines fold none 0 (block.map (BlockLine.content width))
            some (body ++ finalBreaks header.chomping width block,
              place :: joinCells place others)

end Stencil.Yaml
