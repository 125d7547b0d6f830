import Stencil.Query.Expression
import Stencil.Value.Reader

/-!
# Reading queries

The text of a query follows the JSONPath grammar.  Every reader returns what it
read and the characters behind it; a reader that finds nothing of its kind
returns nothing.  Functions are checked as they are read: `length` takes a
value, `count` and `value` take the nodes of a query, `match` and `search` take
two values and stand where a condition does, the others where a value does.
-/

namespace Stencil.Query

/-- Integers of a query are at most this far from zero. -/
def integerBound : Nat := Nat.pow 2 53 - 1

/-- Whether a character may begin a name behind a dot. -/
def isNameStart (character : Char) : Bool :=
  ('A' ≤ character && character ≤ 'Z') || ('a' ≤ character && character ≤ 'z')
    || character = '_' || 0x80 ≤ character.toNat

/-- Whether a character may continue a name behind a dot. -/
def isNamePart (character : Char) : Bool :=
  isNameStart character || Numeral.isDigit character

/-- A name behind a dot. -/
def readName : List Char → Option (String × List Char)
  | [] => none
  | first :: rest =>
    if isNameStart first then
      some (String.ofList (first :: rest.takeWhile isNamePart), rest.dropWhile isNamePart)
    else none

/-- The digits of an integer: zero alone, or digits that do not start with zero. -/
def readNatural : List Char → Option (Nat × List Char)
  | '0' :: rest => some (0, rest)
  | characters =>
    ((Numeral.natural? 10 (characters.takeWhile Numeral.isDigit)).filter
      (· ≤ integerBound)).map fun value => (value, characters.dropWhile Numeral.isDigit)

/-- An integer: a natural number, or a positive one behind a minus sign. -/
def readInteger : List Char → Option (Int × List Char)
  | '-' :: rest =>
    match readNatural rest with
    | some (value, behind) => if value = 0 then none else some (-(value : Int), behind)
    | none => none
  | characters => (readNatural characters).map fun read => ((read.1 : Int), read.2)

/-- Whether a character begins the first half of a surrogate pair, which is written in capitals. -/
def opensSurrogate : List Char → Bool
  | 'D' :: second :: _ => ['8', '9', 'A', 'B'].contains second
  | _ => false

/-- The character written behind `\u` in a query. -/
def readUnits (characters : List Char) : Option (Char × List Char) :=
  match Text.hexadecimal? 4 characters with
  | some (unit, _) =>
    if Text.isHighSurrogate unit && !opensSurrogate characters then none
    else Text.escapedUnits? characters
  | none => none

/-- The rest of a quoted text, up to the mark that opened it. -/
def readQuoted (quote : Char) : Nat → List Char → Option (List Char × List Char)
  | 0, _ => none
  | _ + 1, [] => none
  | fuel + 1, '\\' :: 'u' :: rest =>
    match readUnits rest with
    | some (character, behind) =>
      (readQuoted quote fuel behind).map fun read => (character :: read.1, read.2)
    | none => none
  | fuel + 1, '\\' :: mark :: rest =>
    let character? :=
      if mark = quote then some quote
      else if mark = '"' then none
      else Value.simpleEscape? mark
    match character? with
    | some character =>
      (readQuoted quote fuel rest).map fun read => (character :: read.1, read.2)
    | none => none
  | fuel + 1, character :: rest =>
    if character = quote then some ([], rest)
    else if character = '\\' || character.toNat < 0x20 then none
    else (readQuoted quote fuel rest).map fun read => (character :: read.1, read.2)

/-- A quoted text. -/
def readText : List Char → Option (String × List Char)
  | mark :: rest =>
    if mark = '\'' || mark = '"' then
      (readQuoted mark (rest.length + 1) rest).map fun read =>
        (String.ofList read.1, read.2)
    else none
  | [] => none

/-- A number of a filter. -/
def readNumber (characters : List Char) : Option (Number × List Char) :=
  Value.readNumber characters

/-- A literal of a filter: a number, a quoted text, a truth value or null. -/
def readLiteral (characters : List Char) : Option (Value × List Char) :=
  match characters with
  | 't' :: 'r' :: 'u' :: 'e' :: rest => some (.bool true, rest)
  | 'f' :: 'a' :: 'l' :: 's' :: 'e' :: rest => some (.bool false, rest)
  | 'n' :: 'u' :: 'l' :: 'l' :: rest => some (.null, rest)
  | _ =>
    match readText characters with
    | some (content, rest) => some (.text content, rest)
    | none => (readNumber characters).map fun read => (.number read.1, read.2)

/-- The sign of a comparison. -/
def readComparison : List Char → Option (Comparison × List Char)
  | '=' :: '=' :: rest => some (.equal, rest)
  | '!' :: '=' :: rest => some (.different, rest)
  | '<' :: '=' :: rest => some (.lessEqual, rest)
  | '>' :: '=' :: rest => some (.greaterEqual, rest)
  | '<' :: rest => some (.less, rest)
  | '>' :: rest => some (.greater, rest)
  | _ => none

/-- The mark a query starts with. -/
def readAnchor : List Char → Option (Anchor × List Char)
  | '$' :: rest => some (.document, rest)
  | '@' :: rest => some (.current, rest)
  | _ => none

/-- One step of a compared query, whose brackets hold no blanks. -/
def readStep : List Char → Option (CompareStep × List Char)
  | '.' :: rest => (readName rest).map fun read => (.member read.1, read.2)
  | '[' :: rest =>
    match readText rest with
    | some (name, ']' :: behind) => some (.member name, behind)
    | some _ => none
    | none =>
      match readInteger rest with
      | some (position, ']' :: behind) => some (.index position, behind)
      | _ => none
  | _ => none

/-- The steps of a compared query, as many as there are. -/
def readSteps : Nat → List Char → List CompareStep × List Char
  | 0, characters => ([], characters)
  | fuel + 1, characters =>
    match readStep (Value.skipSpace characters) with
    | some (step, behind) =>
      let (steps, rest) := readSteps fuel behind
      (step :: steps, rest)
    | none => ([], characters)

/-- An optional integer of a slice and the blanks behind it. -/
def readBound (characters : List Char) : Option Int × List Char :=
  match readInteger characters with
  | some (bound, behind) => (some bound, Value.skipSpace behind)
  | none => (none, characters)

/-- A slice or an index. -/
def readPositions (characters : List Char) : Option (Selector × List Char) :=
  match readBound characters with
  | (first, ':' :: behindFirst) =>
    let (last, behindLast) := readBound (Value.skipSpace behindFirst)
    match behindLast with
    | ':' :: behindColon =>
      let (stride, rest) := readBound (Value.skipSpace behindColon)
      some (.slice ⟨first, last, stride⟩, rest)
    | rest => some (.slice ⟨first, last, none⟩, rest)
  | _ => (readInteger characters).map fun read => (.index read.1, read.2)

/-- The name of a function and its opening parenthesis. -/
def readFunction (characters : List Char) : Option (String × List Char) :=
  let isPart (character : Char) : Bool :=
    ('a' ≤ character && character ≤ 'z') || character = '_' || Numeral.isDigit character
  match characters.takeWhile isPart, characters.dropWhile isPart with
  | first :: rest, '(' :: behind =>
    if 'a' ≤ first && first ≤ 'z' then some (String.ofList (first :: rest), behind) else none
  | _, _ => none

/-- The closing parenthesis behind blanks. -/
def readClosing (characters : List Char) : Option (List Char) :=
  match Value.skipSpace characters with
  | ')' :: rest => some rest
  | _ => none

/-- The comma between two arguments and the blanks around it. -/
def readComma (characters : List Char) : Option (List Char) :=
  match Value.skipSpace characters with
  | ',' :: rest => some (Value.skipSpace rest)
  | _ => none

mutual

/-- One segment of a query. -/
def readSegment : Nat → List Char → Option (QuerySegment × List Char)
  | 0, _ => none
  | fuel + 1, characters =>
    match characters with
    | '.' :: '.' :: '*' :: rest => some (.descendants [.wildcard], rest)
    | '.' :: '.' :: '[' :: rest =>
      (readSelectors fuel (Value.skipSpace rest)).map fun read =>
        (.descendants read.1, read.2)
    | '.' :: '.' :: rest =>
      (readName rest).map fun read => (.descendants [.member read.1], read.2)
    | '.' :: '*' :: rest => some (.children [.wildcard], rest)
    | '.' :: rest => (readName rest).map fun read => (.children [.member read.1], read.2)
    | '[' :: rest =>
      (readSelectors fuel (Value.skipSpace rest)).map fun read => (.children read.1, read.2)
    | _ => none

/-- Segments with blanks in front of them, as many as there are. -/
def readSegments : Nat → List Char → List QuerySegment × List Char
  | 0, characters => ([], characters)
  | fuel + 1, characters =>
    match readSegment fuel (Value.skipSpace characters) with
    | some (segment, behind) =>
      let (segments, rest) := readSegments fuel behind
      (segment :: segments, rest)
    | none => ([], characters)

/-- Selectors between commas, up to the closing bracket. -/
def readSelectors : Nat → List Char → Option (List Selector × List Char)
  | 0, _ => none
  | fuel + 1, characters =>
    match readSelector fuel characters with
    | none => none
    | some (selector, behind) =>
      match Value.skipSpace behind with
      | ']' :: rest => some ([selector], rest)
      | ',' :: rest =>
        (readSelectors fuel (Value.skipSpace rest)).map fun read =>
          (selector :: read.1, read.2)
      | _ => none

/-- One selector. -/
def readSelector : Nat → List Char → Option (Selector × List Char)
  | 0, _ => none
  | fuel + 1, characters =>
    match characters with
    | '*' :: rest => some (.wildcard, rest)
    | '?' :: rest =>
      (readCondition fuel (Value.skipSpace rest)).map fun read => (.filter read.1, read.2)
    | _ =>
      match readText characters with
      | some (name, rest) => some (.member name, rest)
      | none => readPositions characters

/-- Conditions of which one has to hold. -/
def readCondition : Nat → List Char → Option (Condition × List Char)
  | 0, _ => none
  | fuel + 1, characters =>
    match readConjunction fuel characters with
    | none => none
    | some (left, behind) =>
      match Value.skipSpace behind with
      | '|' :: '|' :: rest =>
        (readCondition fuel (Value.skipSpace rest)).map fun read =>
          (.either left read.1, read.2)
      | _ => some (left, behind)

/-- Conditions that all have to hold. -/
def readConjunction : Nat → List Char → Option (Condition × List Char)
  | 0, _ => none
  | fuel + 1, characters =>
    match readBasic fuel characters with
    | none => none
    | some (left, behind) =>
      match Value.skipSpace behind with
      | '&' :: '&' :: rest =>
        (readConjunction fuel (Value.skipSpace rest)).map fun read =>
          (.both left read.1, read.2)
      | _ => some (left, behind)

/-- A condition in parentheses, a comparison or a test, the first and last perhaps negated. -/
def readBasic : Nat → List Char → Option (Condition × List Char)
  | 0, _ => none
  | fuel + 1, characters =>
    match characters with
    | '!' :: rest =>
      (readTest fuel (Value.skipSpace rest)).map fun read => (.negation read.1, read.2)
    | _ =>
      match readRelation fuel characters with
      | some relation => some relation
      | none => readTest fuel characters

/-- A condition in parentheses, a query that has to reach a node or a matching function. -/
def readTest : Nat → List Char → Option (Condition × List Char)
  | 0, _ => none
  | fuel + 1, characters =>
    match characters with
    | '(' :: rest =>
      match readCondition fuel (Value.skipSpace rest) with
      | some (condition, behind) => (readClosing behind).map (condition, ·)
      | none => none
    | _ =>
      match readAnchor characters with
      | some (anchor, rest) =>
        let (segments, behind) := readSegments fuel rest
        some (.nonempty anchor segments, behind)
      | none =>
        match readFunction characters with
        | some (name, rest) =>
          if name = "match" || name = "search" then
            match readArgument fuel (Value.skipSpace rest) with
            | none => none
            | some (subject, behindSubject) =>
              match (readComma behindSubject).bind (readArgument fuel) with
              | none => none
              | some (form, behind) =>
                (readClosing behind).map (.matching (name = "match") subject form, ·)
          else none
        | none => none

/-- Two operands and the sign between them. -/
def readRelation : Nat → List Char → Option (Condition × List Char)
  | 0, _ => none
  | fuel + 1, characters =>
    match readOperand fuel characters with
    | none => none
    | some (left, behindLeft) =>
      match readComparison (Value.skipSpace behindLeft) with
      | none => none
      | some (kind, behindSign) =>
        (readOperand fuel (Value.skipSpace behindSign)).map fun read =>
          (.comparison kind left read.1, read.2)

/-- What stands on one side of a comparison. -/
def readOperand : Nat → List Char → Option (Operand × List Char)
  | 0, _ => none
  | fuel + 1, characters =>
    match readLiteral characters with
    | some (value, rest) => some (.literal value, rest)
    | none =>
      match readAnchor characters with
      | some (anchor, rest) =>
        let (steps, behind) := readSteps rest.length rest
        some (.compared anchor steps, behind)
      | none => readValueFunction fuel characters

/-- A function that yields a value. -/
def readValueFunction : Nat → List Char → Option (Operand × List Char)
  | 0, _ => none
  | fuel + 1, characters =>
    match readFunction characters with
    | none => none
    | some (name, rest) =>
      let argument := Value.skipSpace rest
      if name = "length" then
        match readArgument fuel argument with
        | some (operand, behind) => (readClosing behind).map (.length operand, ·)
        | none => none
      else if name = "count" || name = "value" then
        match readAnchor argument with
        | some (anchor, behindAnchor) =>
          let (segments, behind) := readSegments fuel behindAnchor
          let operand : Operand :=
            if name = "count" then .count anchor segments else .only anchor segments
          (readClosing behind).map (operand, ·)
        | none => none
      else none

/-- An argument that has to be a value: a literal, a singular query or a function. -/
def readArgument : Nat → List Char → Option (Operand × List Char)
  | 0, _ => none
  | fuel + 1, characters =>
    match readLiteral characters with
    | some (value, rest) => some (.literal value, rest)
    | none =>
      match readAnchor characters with
      | some (anchor, rest) =>
        let (segments, behind) := readSegments fuel rest
        if segments.all QuerySegment.isSingular then some (.single anchor segments, behind)
        else none
      | none => readValueFunction fuel characters

end

/-- How many calls reading a text of some length may nest. -/
def fuelFor (characters : List Char) : Nat :=
  10 * characters.length + 10

/-- The query that a text describes, from the document and with nothing behind it. -/
def read? (text : String) : Option Query :=
  match text.toList with
  | '$' :: rest =>
    match readSegments (fuelFor rest) rest with
    | (segments, []) => some ⟨segments⟩
    | _ => none
  | _ => none

end Stencil.Query
