import Stencil.Query.Pattern
import Stencil.Text.Escape

/-!
# Reading patterns

The text of a pattern is a choice between sequences of repeated items.  An item
is a character, a class in brackets, a place condition or a group; a group may
set switches that hold up to its end.  A dot stands for every character but the
two that end a line.
-/

namespace Stencil.Pattern

/-- The switches that change how later items are read. -/
structure Switches where
  /-- Letters stand for both cases. -/
  foldCase : Bool := false
  /-- A dot stands for line ends too. -/
  dotAll : Bool := false
  /-- The anchors hold at every line. -/
  multiLine : Bool := false
  /-- Blanks and comments are skipped. -/
  extended : Bool := false

/-- The set of one character. -/
def single (character : Char) : CharacterSet :=
  .range character.toNat character.toNat

/-- The set of every character. -/
def every : CharacterSet := .range 0 0x10FFFF

/-- The set of the characters that end a line. -/
def lineEnds : CharacterSet := .union (single '\n') (single '\r')

/-- The set named by a letter behind a backslash. -/
def classEscape? : Char → Option CharacterSet
  | 'd' => some .digit
  | 'D' => some (.complement .digit)
  | 'w' => some .word
  | 'W' => some (.complement .word)
  | 's' => some .blank
  | 'S' => some (.complement .blank)
  | _ => none

/-- The place condition named by a letter behind a backslash. -/
def assertionEscape? : Char → Option Assertion
  | 'b' => some .wordBoundary
  | 'B' => some .wordInterior
  | 'A' => some .textStart
  | 'z' => some .textEnd
  | _ => none

/-- A code point in hexadecimal, of a fixed width or between braces. -/
def readCodePoint (width : Nat) (characters : List Char) : Option (Char × List Char) :=
  match characters with
  | '\x7b' :: rest =>
    match rest.span (· != '\x7d') with
    | (digits, '\x7d' :: behind) =>
      ((Numeral.natural? 16 digits).bind Text.character?).map (·, behind)
    | _ => none
  | _ =>
    (Text.hexadecimal? width characters).bind fun (code, behind) =>
      (Text.character? code).map (·, behind)

/-- Whether a character stands for itself behind a backslash. -/
def isEscapable (character : Char) : Bool :=
  0x20 < character.toNat && character.toNat < 0x7F && !character.isAlphanum
    && character != '<' && character != '>'

/-- The character that an escape stands for, behind its backslash. -/
def readEscaped : List Char → Option (Char × List Char)
  | [] => none
  | 'n' :: rest => some ('\n', rest)
  | 't' :: rest => some ('\t', rest)
  | 'r' :: rest => some ('\r', rest)
  | 'f' :: rest => some ('\x0c', rest)
  | 'v' :: rest => some ('\x0b', rest)
  | 'a' :: rest => some ('\x07', rest)
  | 'x' :: rest => readCodePoint 2 rest
  | 'u' :: rest => readCodePoint 4 rest
  | 'U' :: rest => readCodePoint 8 rest
  | character :: rest => if isEscapable character then some (character, rest) else none

/-- The union of ranges of ASCII characters. -/
def rangesOf (ranges : List (Char × Char)) : CharacterSet :=
  ranges.foldl
    (fun built range => .union built (.range range.1.toNat range.2.toNat)) .empty

/-- The sets of ASCII characters with a name. -/
def namedSet? (name : String) : Option CharacterSet :=
  let letters := [('a', 'z'), ('A', 'Z')]
  let digits := [('0', '9')]
  match name with
  | "alnum" => some (rangesOf (letters ++ digits))
  | "alpha" => some (rangesOf letters)
  | "ascii" => some (.range 0 0x7F)
  | "blank" => some (rangesOf [('\t', '\t'), (' ', ' ')])
  | "cntrl" => some (.union (.range 0 0x1F) (.range 0x7F 0x7F))
  | "digit" => some (rangesOf digits)
  | "graph" => some (rangesOf [('!', '~')])
  | "lower" => some (rangesOf [('a', 'z')])
  | "print" => some (rangesOf [(' ', '~')])
  | "punct" => some (rangesOf [('!', '/'), (':', '@'), ('[', '\x60'), ('\x7b', '~')])
  | "space" => some (rangesOf [('\t', '\r'), (' ', ' ')])
  | "upper" => some (rangesOf [('A', 'Z')])
  | "word" => some (rangesOf (letters ++ digits ++ [('_', '_')]))
  | "xdigit" => some (rangesOf [('0', '9'), ('a', 'f'), ('A', 'F')])
  | _ => none

/-- One character of a class, escaped or not. -/
def readClassCharacter : List Char → Option (Char × List Char)
  | '\\' :: rest => readEscaped rest
  | character :: rest => some (character, rest)
  | [] => none

/-- A named set inside a class, behind its opening bracket. -/
def readNamedSet : List Char → Option (CharacterSet × List Char)
  | ':' :: rest =>
    let (negated, named) :=
      match rest with
      | '^' :: behind => (true, behind)
      | _ => (false, rest)
    match named.span Char.isAlpha with
    | (name, ':' :: ']' :: behind) =>
      (namedSet? (String.ofList name)).map fun set =>
        (if negated then .complement set else set, behind)
    | _ => none
  | _ => none

/-- A single character or a range of a class. -/
def readRange (characters : List Char) : Option (CharacterSet × List Char) :=
  match readClassCharacter characters with
  | none => none
  | some (first, behind) =>
    match behind with
    | '-' :: ']' :: _ | '-' :: '-' :: _ => some (single first, behind)
    | '-' :: rest =>
      match readClassCharacter rest with
      | some (last, after) =>
        if first.toNat ≤ last.toNat then some (.range first.toNat last.toNat, after)
        else none
      | none => none
    | _ => some (single first, behind)

/-- How the parts of a class on both sides of an operator are combined. -/
def combine? : List Char → Option ((CharacterSet → CharacterSet → CharacterSet) × List Char)
  | '&' :: '&' :: rest => some (.intersection, rest)
  | '-' :: '-' :: rest => some (.difference, rest)
  | '~' :: '~' :: rest => some (.symmetric, rest)
  | _ => none

mutual

/-- A class, behind its opening bracket. -/
def readClass : Nat → List Char → Option (CharacterSet × List Char)
  | 0, _ => none
  | fuel + 1, characters =>
    let (negated, opened) :=
      match characters with
      | '^' :: rest => (true, rest)
      | _ => (false, characters)
    let (first, behind) :=
      match opened with
      | ']' :: rest => (single ']', rest)
      | '-' :: rest => (single '-', rest)
      | _ => (CharacterSet.empty, opened)
    (readClassParts fuel none first behind).map fun (set, rest) =>
      (if negated then .complement set else set, rest)

/-- The parts of a class up to its closing bracket; `pending` awaits its right side. -/
def readClassParts :
    Nat → Option (CharacterSet → CharacterSet) → CharacterSet → List Char →
      Option (CharacterSet × List Char)
  | 0, _, _, _ => none
  | _ + 1, _, _, [] => none
  | fuel + 1, pending, built, characters =>
    let finished := (pending.map (· built)).getD built
    match characters with
    | ']' :: rest => some (finished, rest)
    | _ =>
      match combine? characters with
      | some (operation, rest) =>
        readClassParts fuel (some (operation finished)) .empty rest
      | none =>
        match readClassPart fuel characters with
        | some (set, rest) => readClassParts fuel pending (.union built set) rest
        | none => none

/-- One part of a class. -/
def readClassPart : Nat → List Char → Option (CharacterSet × List Char)
  | 0, _ => none
  | fuel + 1, characters =>
    match characters with
    | '[' :: rest =>
      match readNamedSet rest with
      | some named => some named
      | none => readClass fuel rest
    | '\\' :: letter :: rest =>
      match classEscape? letter with
      | some set => some (set, rest)
      | none => readRange characters
    | _ => readRange characters

end

/-- The switches of a group, up to the colon or the closing parenthesis. -/
def readSwitches (negated : Bool) (switches : Switches) :
    List Char → Option (Switches × List Char)
  | [] => none
  | ':' :: rest => some (switches, ':' :: rest)
  | ')' :: rest => some (switches, ')' :: rest)
  | '-' :: rest => if negated then none else readSwitches true switches rest
  | 'i' :: rest => readSwitches negated { switches with foldCase := !negated } rest
  | 's' :: rest => readSwitches negated { switches with dotAll := !negated } rest
  | 'm' :: rest => readSwitches negated { switches with multiLine := !negated } rest
  | 'x' :: rest => readSwitches negated { switches with extended := !negated } rest
  | 'R' :: rest | 'U' :: rest | 'u' :: rest => readSwitches negated switches rest
  | _ => none

/-- The count of a repetition between braces, behind the opening one. -/
def readCounts (characters : List Char) : Option (Nat × Option Nat × List Char) :=
  let number (digits : List Char) : Option Nat := Numeral.natural? 10 digits
  match characters.span (· != '\x7d') with
  | (inner, '\x7d' :: rest) =>
    match inner.span (· != ',') with
    | (digits, []) => (number digits).map fun count => (count, some count, rest)
    | ([], _ :: digits) => (number digits).map fun most => (0, some most, rest)
    | (digits, [_]) => (number digits).map fun least => (least, none, rest)
    | (digits, _ :: bound) =>
      match number digits, number bound with
      | some least, some most => if least ≤ most then some (least, some most, rest) else none
      | _, _ => none
  | _ => none

/-- The repetitions behind an item; whether one prefers fewer rounds changes no match. -/
def readRepetitions : Nat → Pattern → List Char → Option (Pattern × List Char)
  | 0, _, _ => none
  | fuel + 1, body, characters =>
    let lazily (rest : List Char) : List Char :=
      match rest with
      | '?' :: behind => behind
      | _ => rest
    match characters with
    | '*' :: rest => readRepetitions fuel (.repetition body 0 none) (lazily rest)
    | '+' :: rest => readRepetitions fuel (.repetition body 1 none) (lazily rest)
    | '?' :: rest => readRepetitions fuel (.repetition body 0 (some 1)) (lazily rest)
    | '\x7b' :: rest =>
      match readCounts rest with
      | some (least, most, behind) =>
        readRepetitions fuel (.repetition body least most) (lazily behind)
      | none => none
    | _ => some (body, characters)

/-- The characters behind blanks and comments, where the switches ask to skip them. -/
def skipExtended (switches : Switches) : Nat → List Char → List Char
  | 0, characters => characters
  | fuel + 1, characters =>
    if !switches.extended then characters
    else
      match characters with
      | '#' :: rest => skipExtended switches fuel (rest.dropWhile (· != '\n'))
      | character :: rest =>
        if Text.isBlank character then skipExtended switches fuel rest else characters
      | [] => []

/-- The name of a group, up to its closing bracket. -/
def skipName (characters : List Char) : Option (List Char) :=
  match characters.span (· != '>') with
  | (first :: _, '>' :: rest) => if first.isDigit then none else some rest
  | _ => none

mutual

/-- A choice, up to the end of its group. -/
def readChoice : Nat → Switches → List Char → Option (Pattern × List Char)
  | 0, _, _ => none
  | fuel + 1, switches, characters =>
    match readSequence fuel switches .empty characters with
    | none => none
    | some (first, later, rest) =>
      match rest with
      | '|' :: behind =>
        (readChoice fuel later behind).map fun (second, after) =>
          (.choice first second, after)
      | _ => some (first, rest)

/-- A sequence of repeated items, up to a bar or the end of its group. -/
def readSequence :
    Nat → Switches → Pattern → List Char → Option (Pattern × Switches × List Char)
  | 0, _, _, _ => none
  | fuel + 1, switches, built, characters =>
    let literal (set : CharacterSet) : Pattern := .oneOf switches.foldCase set
    let continued (item : Pattern) (rest : List Char) :=
      match readRepetitions (rest.length + 1) item
          (skipExtended switches rest.length rest) with
      | some (repeated, behind) => readSequence fuel switches (.sequence built repeated) behind
      | none => none
    match skipExtended switches characters.length characters with
    | [] => some (built, switches, [])
    | '|' :: rest => some (built, switches, '|' :: rest)
    | ')' :: rest => some (built, switches, ')' :: rest)
    | '*' :: _ | '+' :: _ | '?' :: _ | '\x7b' :: _ => none
    | '^' :: rest =>
      continued (.assertion (if switches.multiLine then .lineStart else .textStart)) rest
    | '$' :: rest =>
      continued (.assertion (if switches.multiLine then .lineEnd else .textEnd)) rest
    | '.' :: rest =>
      continued (literal (if switches.dotAll then every else .complement lineEnds)) rest
    | '[' :: rest =>
      match readClass (2 * rest.length + 2) rest with
      | some (set, behind) => continued (literal set) behind
      | none => none
    | '(' :: '?' :: rest =>
      let grouped (inner : Switches) (body : List Char) :=
        match readChoice fuel inner body with
        | some (group, ')' :: behind) => continued group behind
        | _ => none
      match rest with
      | 'P' :: '<' :: named | '<' :: named =>
        match skipName named with
        | some body => grouped switches body
        | none => none
      | _ =>
        match readSwitches false switches rest with
        | some (inner, ')' :: behind) =>
          if rest.head? = some ')' then none else readSequence fuel inner built behind
        | some (inner, ':' :: body) => grouped inner body
        | _ => none
    | '(' :: rest =>
      match readChoice fuel switches rest with
      | some (group, ')' :: behind) => continued group behind
      | _ => none
    | '\\' :: letter :: rest =>
      match classEscape? letter, assertionEscape? letter with
      | some set, _ => continued (literal set) rest
      | none, some condition => continued (.assertion condition) rest
      | none, none =>
        match readEscaped (letter :: rest) with
        | some (character, behind) => continued (literal (single character)) behind
        | none => none
    | '\\' :: [] => none
    | character :: rest => continued (literal (single character)) rest

end

/-- The pattern that a text describes. -/
def read? (text : List Char) : Option Pattern :=
  match readChoice (2 * text.length + 2) {} text with
  | some (pattern, []) => some pattern
  | _ => none

/-- Whether a text, or some part of it, has the form that a pattern text describes. -/
def accepts (whole : Bool) (form text : String) : Bool :=
  let grouped := '(' :: form.toList ++ [')']
  let written := if whole then '^' :: grouped ++ ['$'] else grouped
  match read? written with
  | some pattern => pattern.occursIn text
  | none => false

end Stencil.Pattern
