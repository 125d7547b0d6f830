import Stencil.Text.Escape
import Stencil.Value.Basic

/-!
# Reading documents

The reader takes a text of one value, with blanks around it and between its
parts.  Containers nest at most `nestingLimit` deep.  Each function of the
grammar returns what it read and the characters behind it, and the argument
`fuel` bounds the calls by the length of the text.
-/

namespace Stencil.Value

/-- How deep containers may nest in a text. -/
def nestingLimit : Nat := 127

/-- Whether a character may stand between the parts of a text. -/
def isSpace (character : Char) : Bool :=
  character = ' ' || character = '\t' || character = '\n' || character = '\r'

/-- The characters behind the blanks in front. -/
def skipSpace (characters : List Char) : List Char :=
  characters.dropWhile isSpace

/-- The character behind a backslash, when it names one by itself. -/
def simpleEscape? : Char → Option Char
  | '"' => some '"'
  | '\\' => some '\\'
  | '/' => some '/'
  | 'b' => some '\x08'
  | 'f' => some '\x0c'
  | 'n' => some '\n'
  | 'r' => some '\r'
  | 't' => some '\t'
  | _ => none

/-- The rest of a quoted text, up to its closing mark. -/
def readQuoted : Nat → List Char → Option (List Char × List Char)
  | 0, _ => none
  | _ + 1, [] => none
  | _ + 1, '"' :: rest => some ([], rest)
  | fuel + 1, '\\' :: 'u' :: rest =>
    match Text.escapedUnits? rest with
    | some (character, behind) =>
      (readQuoted fuel behind).map fun read => (character :: read.1, read.2)
    | none => none
  | fuel + 1, '\\' :: mark :: rest =>
    match simpleEscape? mark with
    | some character =>
      (readQuoted fuel rest).map fun read => (character :: read.1, read.2)
    | none => none
  | fuel + 1, character :: rest =>
    if character = '\\' || character.toNat < 0x20 then none
    else (readQuoted fuel rest).map fun read => (character :: read.1, read.2)

/-- Split off the digits in front. -/
def spanDigits (characters : List Char) : List Char × List Char :=
  (characters.takeWhile Numeral.isDigit, characters.dropWhile Numeral.isDigit)

/-- The fraction of a number, with at least one digit; nothing read when there is no point. -/
def readFraction : List Char → Option (Option (List Char) × List Char)
  | '.' :: rest =>
    let (digits, behind) := spanDigits rest
    if digits.isEmpty then none else some (some digits, behind)
  | characters => some (none, characters)

/-- The exponent of a number, with at least one digit; nothing read when there is no mark. -/
def readExponent (characters : List Char) : Option (Option Int × List Char) :=
  let signed (negative : Bool) (rest : List Char) : Option (Option Int × List Char) :=
    let (digits, behind) := spanDigits rest
    (Numeral.natural? 10 digits).map fun value =>
      (some (if negative then -(value : Int) else value), behind)
  match characters with
  | mark :: rest =>
    if mark = 'e' || mark = 'E' then
      match rest with
      | '+' :: behind => signed false behind
      | '-' :: behind => signed true behind
      | _ => signed false rest
    else some (none, characters)
  | [] => some (none, [])

/-- A number: no leading zeros, and digits on both sides of a point. -/
def readNumber (characters : List Char) : Option (Number × List Char) :=
  let (negative, unsigned) :=
    match characters with
    | '-' :: rest => (true, rest)
    | _ => (false, characters)
  let (digits, behindDigits) := spanDigits unsigned
  let wellFormed :=
    match digits with
    | [] => false
    | '0' :: _ :: _ => false
    | _ => true
  if !wellFormed then none
  else
    match readFraction behindDigits with
    | none => none
    | some (fraction, behindFraction) =>
      match readExponent behindFraction with
      | none => none
      | some (exponent, rest) =>
        (Number.ofLiteral? negative digits fraction exponent).map fun number =>
          (number, rest)

mutual

/-- A value, behind which other characters may stand. -/
def readValue : Nat → Nat → List Char → Option (Value × List Char)
  | 0, _, _ => none
  | fuel + 1, depth, characters =>
    match characters with
    | 'n' :: 'u' :: 'l' :: 'l' :: rest => some (.null, rest)
    | 't' :: 'r' :: 'u' :: 'e' :: rest => some (.bool true, rest)
    | 'f' :: 'a' :: 'l' :: 's' :: 'e' :: rest => some (.bool false, rest)
    | '"' :: rest =>
      (readQuoted fuel rest).map fun read =>
        (.text (String.ofList read.1), read.2)
    | '[' :: rest =>
      match depth with
      | 0 => none
      | inner + 1 =>
        match skipSpace rest with
        | ']' :: behind => some (.array [], behind)
        | first =>
          (readItems fuel inner first).map fun read => (.array read.1, read.2)
    | '\x7b' :: rest =>
      match depth with
      | 0 => none
      | inner + 1 =>
        match skipSpace rest with
        | '\x7d' :: behind => some (.object [], behind)
        | first =>
          (readMembers fuel inner first).map fun read => (ofMembers read.1, read.2)
    | _ => (readNumber characters).map fun read => (.number read.1, read.2)

/-- The items of an array and its closing bracket. -/
def readItems : Nat → Nat → List Char → Option (List Value × List Char)
  | 0, _, _ => none
  | fuel + 1, depth, characters =>
    match readValue fuel depth characters with
    | none => none
    | some (item, behind) =>
      match skipSpace behind with
      | ']' :: rest => some ([item], rest)
      | ',' :: rest =>
        (readItems fuel depth (skipSpace rest)).map fun read => (item :: read.1, read.2)
      | _ => none

/-- The members of an object and its closing brace. -/
def readMembers : Nat → Nat → List Char → Option (List (String × Value) × List Char)
  | 0, _, _ => none
  | fuel + 1, depth, characters =>
    match characters with
    | '"' :: opened =>
      match readQuoted fuel opened with
      | none => none
      | some (name, behindName) =>
        match skipSpace behindName with
        | ':' :: behindColon =>
          match readValue fuel depth (skipSpace behindColon) with
          | none => none
          | some (item, behind) =>
            let entry := (String.ofList name, item)
            match skipSpace behind with
            | '\x7d' :: rest => some ([entry], rest)
            | ',' :: rest =>
              (readMembers fuel depth (skipSpace rest)).map fun read =>
                (entry :: read.1, read.2)
            | _ => none
        | _ => none
    | _ => none

end

/-- The value that a text holds, with nothing but blanks around it. -/
def read? (text : String) : Option Value :=
  let characters := text.toList
  match readValue (2 * characters.length + 2) nestingLimit (skipSpace characters) with
  | some (value, rest) => if (skipSpace rest).isEmpty then some value else none
  | none => none

/-- The members that a text of one object holds, in order and with repeated names. -/
def readMembers? (text : String) : Option (List (String × Value)) :=
  let characters := text.toList
  let read? :=
    match skipSpace characters with
    | '\x7b' :: rest =>
      match skipSpace rest with
      | '\x7d' :: behind => some ([], behind)
      | first => readMembers (2 * characters.length + 2) (nestingLimit - 1) first
    | _ => none
  match read? with
  | some (members, rest) => if (skipSpace rest).isEmpty then some members else none
  | none => none

/-- The value that a literal stands for: what its text holds, or else the text itself. -/
def ofLiteral (text : String) : Value :=
  (read? text).getD (.text text)

/-- The value of an argument, read as a literal when `coerce` asks for it. -/
def ofArgument (coerce : Bool) (text : String) : Value :=
  if coerce then ofLiteral text else .text text

end Stencil.Value
