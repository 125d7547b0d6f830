import Stencil.Settings.Yaml.Block
import Stencil.Settings.Yaml.Scalar
import Stencil.Settings.Yaml.Tree

/-!
# Reading indented texts

A text holds at most one document.  Blocks are told apart by their columns:
every entry of a sequence or a mapping starts at the column of the first one,
and what belongs to an entry starts behind it.  Between brackets columns and
lines do not count.  A key that is not announced by a question mark stands on
one line with its colon.  Each function returns what it read and the cells
behind it, and the argument `fuel` bounds the calls by the length of the text.
-/

namespace Stencil.Yaml

/-- Whether a character may stand in the name of an anchor. -/
def isNameCharacter (character : Char) : Bool :=
  character.isAlphanum || character = '_' || character = '-'

/-- The name of an anchor or an alias, behind its mark. -/
def readName (cells : List Cell) : Option (String × List Cell) :=
  let name := cells.takeWhile fun cell => isNameCharacter cell.character
  let rest := cells.dropWhile fun cell => isNameCharacter cell.character
  let ended :=
    match rest with
    | [] => true
    | cell :: _ =>
      cell.isGap || ['?', ':', ',', ']', '\x7d', '%', '@', '\x60'].contains cell.character
  if name.isEmpty || !ended then none
  else some (String.ofList (name.map Cell.character), rest)

/-- What follows a tag, behind its mark: a handle has to be one that every text knows. -/
def skipTag (cells : List Cell) : Option (List Cell) :=
  let isPart (cell : Cell) : Bool := !cell.isGap && !flowMarks.contains cell.character
  let tag := (cells.takeWhile isPart).map Cell.character
  let known :=
    match tag with
    | '!' :: suffix => !suffix.isEmpty
    | '<' :: _ => tag.getLast? = some '>'
    | _ => !tag.contains '!'
  if known then some (cells.dropWhile isPart) else none

/-- The anchor in front of a node, if there is one, and what follows it and its tag. -/
def readProperties : Nat → Option String → List Cell → Option (Option String × List Cell)
  | 0, anchor, cells => some (anchor, cells)
  | _ + 1, anchor, [] => some (anchor, [])
  | fuel + 1, anchor, cell :: rest =>
    if cell.character = '&' then
      match anchor with
      | some _ => none
      | none =>
        (readName rest).bind fun (name, behind) =>
          readProperties fuel (some name) (skipBlanks behind)
    else if cell.character = '!' then
      (skipTag rest).bind fun behind => readProperties fuel anchor (skipBlanks behind)
    else some (anchor, cell :: rest)

/-- A node with its anchor, if any. -/
def withAnchor (anchor : Option String) (node : Tree) : Tree :=
  match anchor with
  | some name => .anchored name node
  | none => node

/-- A scalar or an alias, plain ones within a flow or from the column `floor` on. -/
def readSimple (flow : Bool) (floor : Nat) (cells : List Cell) : Option (Tree × List Cell) :=
  let scalar (plain : Bool) (read : List Char × List Cell) : Tree × List Cell :=
    (.scalar (String.ofList read.1) plain, read.2)
  match cells with
  | [] => none
  | cell :: rest =>
    if cell.character = '"' then (readDouble cells.length rest).map (scalar false)
    else if cell.character = '\'' then (readSingle cells.length rest).map (scalar false)
    else if cell.character = '*' then
      (readName rest).map fun read => (.alias read.1, read.2)
    else if startsPlain flow cells then
      (readPlain flow floor cells.length cells).map (scalar true)
    else none

/-- Whether a mark stands here, whatever follows it. -/
def isMark (mark : Char) (cells : List Cell) : Bool :=
  (cells.head?.map Cell.character) = some mark

/-- Whether an entry between brackets ends here. -/
def endsFlow (cells : List Cell) : Bool :=
  isMark ',' cells || isMark ']' cells || isMark '\x7d' cells

/-- Whether two places are on one line. -/
def onLine (start here : List Cell) : Bool :=
  match start, here with
  | first :: _, second :: _ => first.line = second.line
  | _, _ => false

mutual

/-- A node between brackets. -/
def readFlow : Nat → List Cell → Option (Tree × List Cell)
  | 0, _ => none
  | fuel + 1, cells =>
    if isBoundary cells then none
    else
      match readProperties 3 none cells with
      | none => none
      | some (anchor, behind) =>
        let next := nextFlow behind
        let declared := behind.length < cells.length
        if isMark '[' next then
          (readFlowItems fuel (nextFlow (next.drop 1))).map fun read =>
            (withAnchor anchor (.sequence read.1), read.2)
        else if isMark '\x7b' next then
          (readFlowEntries fuel (nextFlow (next.drop 1))).map fun read =>
            (withAnchor anchor (.mapping read.1), read.2)
        else if declared && (endsFlow next || isMark ':' next) then
          some (withAnchor anchor .empty, next)
        else
          (readSimple true 0 next).map fun read => (withAnchor anchor read.1, read.2)

/-- The value behind the colon of an entry between brackets, empty where none is written. -/
def readFlowValue : Nat → List Cell → Option (Tree × List Cell)
  | 0, _ => none
  | fuel + 1, cells =>
    let next := nextFlow cells
    if endsFlow next then some (.empty, next) else readFlow fuel next

/-- A key between brackets with its value, and whether a colon stands between them. -/
def readFlowEntry : Nat → List Cell → Option (Tree × Option Tree × List Cell)
  | 0, _ => none
  | fuel + 1, cells =>
    if isMark ':' cells then
      (readFlowValue fuel (cells.drop 1)).map fun read => (.empty, some read.1, read.2)
    else if isMark '?' cells then
      let key := nextFlow (cells.drop 1)
      let read? := if isMark ':' key || endsFlow key then some (.empty, key) else readFlow fuel key
      match read? with
      | none => none
      | some (node, behind) =>
        let after := nextFlow behind
        if isMark ':' after then
          (readFlowValue fuel (after.drop 1)).map fun read => (node, some read.1, read.2)
        else some (node, some .empty, after)
    else
      match readFlow fuel cells with
      | none => none
      | some (node, behind) =>
        let after := nextFlow behind
        if isMark ':' after then
          if onLine cells after then
            (readFlowValue fuel (after.drop 1)).map fun read => (node, some read.1, read.2)
          else none
        else some (node, none, after)

/-- The items of a sequence between brackets, behind its opening one. -/
def readFlowItems : Nat → List Cell → Option (List Tree × List Cell)
  | 0, _ => none
  | fuel + 1, cells =>
    if isMark ']' cells then some ([], cells.drop 1)
    else
      match readFlowEntry fuel cells with
      | none => none
      | some (key, value, behind) =>
        let item :=
          match value with
          | some node => .mapping [(key, node)]
          | none => key
        let after := nextFlow behind
        if isMark ']' after then some ([item], after.drop 1)
        else if isMark ',' after then
          (readFlowItems fuel (nextFlow (after.drop 1))).map fun read =>
            (item :: read.1, read.2)
        else none

/-- The entries of a mapping between braces, behind its opening one. -/
def readFlowEntries : Nat → List Cell → Option (List (Tree × Tree) × List Cell)
  | 0, _ => none
  | fuel + 1, cells =>
    if isMark '\x7d' cells then some ([], cells.drop 1)
    else
      match readFlowEntry fuel cells with
      | none => none
      | some (key, value, behind) =>
        let entry := (key, value.getD .empty)
        let after := nextFlow behind
        if isMark '\x7d' after then some ([entry], after.drop 1)
        else if isMark ',' after then
          (readFlowEntries fuel (nextFlow (after.drop 1))).map fun read =>
            (entry :: read.1, read.2)
        else none

end

/-- A node that is no block of entries, whose lines start at the column `floor` or behind it. -/
def readLeaf (floor : Nat) (cells : List Cell) : Option (Tree × List Cell) :=
  let fuel := 4 * cells.length + 4
  if isMark '[' cells || isMark '\x7b' cells then readFlow fuel cells
  else if isMark '|' cells || isMark '>' cells then
    (readBlock (isMark '>' cells) floor (cells.drop 1)).map fun read =>
      (.scalar (String.ofList read.1) false, read.2)
  else readSimple false floor cells

/-- The column of a place. -/
def columnOf (cells : List Cell) : Nat :=
  (cells.head?.map Cell.column).getD 0

/-- Whether nothing of a block from a column on stands here. -/
def endsBlock (floor : Nat) (cells : List Cell) : Bool :=
  cells.isEmpty || isBoundary cells || columnOf cells < floor

mutual

/--
A node whose content starts at the column `floor` or behind it, empty where
there is none.  Only where the flag says so may it be a block of entries that
starts on the line.
-/
def readNode : Nat → Nat → Bool → List Cell → Option (Tree × List Cell)
  | 0, _, _, _ => none
  | fuel + 1, floor, fresh, cells =>
    let (opened, here) := nextToken fresh cells
    if endsBlock floor here then some (.empty, cells)
    else if isIndicator '-' here then
      if opened then
        (readItems fuel (columnOf here) here).map fun read => (.sequence read.1, read.2)
      else none
    else if isIndicator '?' here || isIndicator ':' here then
      if opened then
        (readEntries fuel (columnOf here) here).map fun read => (.mapping read.1, read.2)
      else none
    else
      match readProperties 3 none here with
      | none => none
      | some (anchor, behind) =>
        let (crossed, next) := nextToken false behind
        let declared := behind.length < here.length
        if declared && endsBlock floor next then some (withAnchor anchor .empty, behind)
        else if declared && crossed then
          (readNode fuel floor true next).map fun read => (withAnchor anchor read.1, read.2)
        else
          let leaf? :=
            if declared && isIndicator ':' next then some (.empty, next) else readLeaf floor next
          match leaf? with
          | none => none
          | some (leaf, rest) =>
            let after := skipBlanks rest
            if isIndicator ':' after then
              if opened && onLine here after then
                (readEntries fuel (columnOf here) here).map fun read =>
                  (.mapping read.1, read.2)
              else none
            else some (withAnchor anchor leaf, rest)

/-- The items of a sequence whose marks stand at a column. -/
def readItems : Nat → Nat → List Cell → Option (List Tree × List Cell)
  | 0, _, _ => none
  | fuel + 1, column, cells =>
    match readNode fuel (column + 1) true (cells.drop 1) with
    | none => none
    | some (item, rest) =>
      let (crossed, next) := nextToken false rest
      if endsBlock column next then some ([item], rest)
      else if !crossed || columnOf next != column then none
      else if isIndicator '-' next then
        (readItems fuel column next).map fun read => (item :: read.1, read.2)
      else some ([item], rest)

/-- The value of an entry of a mapping; a sequence may start at the column of the mapping. -/
def readEntryValue : Nat → Nat → Bool → List Cell → Option (Tree × List Cell)
  | 0, _, _, _ => none
  | fuel + 1, column, fresh, cells =>
    let (opened, here) := nextToken fresh cells
    if opened && columnOf here = column && isIndicator '-' here && !isBoundary here then
      (readItems fuel column here).map fun read => (.sequence read.1, read.2)
    else readNode fuel (column + 1) fresh cells

/-- One entry of a mapping. -/
def readEntry : Nat → Nat → List Cell → Option ((Tree × Tree) × List Cell)
  | 0, _, _ => none
  | fuel + 1, column, cells =>
    if isIndicator '?' cells then
      match readNode fuel (column + 1) true (cells.drop 1) with
      | none => none
      | some (key, rest) =>
        let (crossed, next) := nextToken false rest
        if crossed && columnOf next = column && isIndicator ':' next then
          (readEntryValue fuel column true (next.drop 1)).map fun read =>
            ((key, read.1), read.2)
        else some ((key, .empty), rest)
    else if isIndicator ':' cells then
      (readEntryValue fuel column true (cells.drop 1)).map fun read =>
        ((.empty, read.1), read.2)
    else
      match readProperties 3 none cells with
      | none => none
      | some (anchor, behind) =>
        let declared := behind.length < cells.length
        let leaf? :=
          if declared && isIndicator ':' behind then some (.empty, behind)
          else readLeaf (column + 1) behind
        match leaf? with
        | none => none
        | some (leaf, rest) =>
          let after := skipBlanks rest
          if isIndicator ':' after && onLine cells after then
            (readEntryValue fuel column false (after.drop 1)).map fun read =>
              ((withAnchor anchor leaf, read.1), read.2)
          else none

/-- The entries of a mapping whose keys start at a column. -/
def readEntries : Nat → Nat → List Cell → Option (List (Tree × Tree) × List Cell)
  | 0, _, _ => none
  | fuel + 1, column, cells =>
    match readEntry fuel column cells with
    | none => none
    | some (entry, rest) =>
      let (crossed, next) := nextToken false rest
      if endsBlock column next then some ([entry], rest)
      else if !crossed || columnOf next != column then none
      else
        (readEntries fuel column next).map fun read => (entry :: read.1, read.2)

end

/-- The cells behind the lines in front that direct how a text is read; whether there were any. -/
def skipDirectives : Nat → List Cell → Option (Bool × List Cell)
  | 0, _ => none
  | fuel + 1, cells =>
    let (_, here) := nextToken true cells
    if isMark '%' here then
      let words := (here.takeWhile fun cell => !cell.isGap).map Cell.character
      let known := words = ['%', 'Y', 'A', 'M', 'L'] || words = ['%', 'T', 'A', 'G']
      if known then
        (skipDirectives fuel (skipComment here)).map fun read => (true, read.2)
      else none
    else some (false, here)

/-- Whether nothing but ends of documents follows. -/
def endsText : Nat → List Cell → Bool
  | 0, _ => false
  | fuel + 1, cells =>
    let (_, here) := nextToken false cells
    if here.isEmpty then true
    else if isRule '.' here then endsText fuel (here.drop 3)
    else false

/-- The document that a text holds. -/
def read? (text : String) : Option Tree :=
  let characters :=
    match text.toList with
    | '\ufeff' :: rest => rest
    | all => all
  if !characters.all isAllowed then none
  else
    let cells := layout 0 0 characters
    let fuel := 4 * cells.length + 8
    match skipDirectives fuel cells with
    | none => none
    | some (directed, here) =>
      let node? :=
        if isRule '-' here then readNode fuel 0 false (here.drop 3)
        else if directed then none
        else readNode fuel 0 true here
      match node? with
      | none => none
      | some (tree, rest) =>
        let (crossed, next) := nextToken false rest
        if next.isEmpty then some tree
        else if crossed || columnOf next = 0 then
          if endsText fuel next then some tree else none
        else none

end Stencil.Yaml

/-- The settings of an indented text. -/
def Stencil.Settings.ofYaml? (text : String) : Option Stencil.Settings :=
  ((Stencil.Yaml.read? text).bind fun tree => tree.fields? []).bind
    Stencil.Settings.ofFields?
