import Stencil.Text.Decimal
import Stencil.Text.Escape

/-!
# Scalars of tables

Strings are basic or literal, on one line or on several.  A run of characters
without blanks is a number or a date and time when it has the shape of one.
-/

namespace Stencil.Toml

/-- Whether a character may stand in a comment or in a string on one line. -/
def isPlain (character : Char) : Bool :=
  character = '\t' || (0x20 ≤ character.toNat && character.toNat != 0x7F)

/-- The line break in front, if any, taken away. -/
def dropBreak? : List Char → Option (List Char)
  | '\n' :: rest => some rest
  | '\r' :: '\n' :: rest => some rest
  | _ => none

/-- The character that an escape names by one letter. -/
def simpleEscape? : Char → Option Char
  | 'b' => some '\x08'
  | 't' => some '\t'
  | 'n' => some '\n'
  | 'f' => some '\x0c'
  | 'r' => some '\r'
  | '"' => some '"'
  | '\\' => some '\\'
  | _ => none

/-- The character written behind a backslash. -/
def readEscape : List Char → Option (Char × List Char)
  | 'u' :: rest =>
    (Text.hexadecimal? 4 rest).bind fun (code, behind) =>
      (Text.character? code).map fun character => (character, behind)
  | 'U' :: rest =>
    (Text.hexadecimal? 8 rest).bind fun (code, behind) =>
      (Text.character? code).map fun character => (character, behind)
  | letter :: rest => (simpleEscape? letter).map fun character => (character, rest)
  | [] => none

/-- The blanks and line breaks in front, taken away. -/
def skipBlankLines : List Char → List Char
  | ' ' :: rest => skipBlankLines rest
  | '\t' :: rest => skipBlankLines rest
  | '\n' :: rest => skipBlankLines rest
  | '\r' :: '\n' :: rest => skipBlankLines rest
  | characters => characters

/-- What follows a backslash that ends its line: the next character that is not blank. -/
def continuedLine? (characters : List Char) : Option (List Char) :=
  (dropBreak? (characters.dropWhile fun character => character = ' ' || character = '\t')).map
    skipBlankLines

/-- The rest of a string on one line, up to its closing quote. -/
def readLine (escapes : Bool) (quote : Char) :
    Nat → List Char → Option (List Char × List Char)
  | 0, _ | _, [] => none
  | fuel + 1, character :: rest =>
    if character = quote then some ([], rest)
    else if escapes && character = '\\' then
      (readEscape rest).bind fun (escaped, behind) =>
        (readLine escapes quote fuel behind).map fun read => (escaped :: read.1, read.2)
    else if isPlain character then
      (readLine escapes quote fuel rest).map fun read => (character :: read.1, read.2)
    else none

/-- The end of a string on several lines: up to two quotes may stand before the closing ones. -/
def closing? (quote : Char) (characters : List Char) : Option (List Char × List Char) :=
  let run := (characters.takeWhile (· == quote)).length
  if run < 3 then none
  else
    let kept := min (run - 3) 2
    some (List.replicate kept quote, characters.drop (kept + 3))

/-- The rest of a string on several lines, up to its closing quotes. -/
def readLines (escapes : Bool) (quote : Char) :
    Nat → List Char → Option (List Char × List Char)
  | 0, _ | _, [] => none
  | fuel + 1, character :: rest =>
    match closing? quote (character :: rest) with
    | some found => some found
    | none =>
      if escapes && character = '\\' then
        match continuedLine? rest with
        | some behind => readLines escapes quote fuel behind
        | none =>
          (readEscape rest).bind fun (escaped, behind) =>
            (readLines escapes quote fuel behind).map fun read => (escaped :: read.1, read.2)
      else
        match dropBreak? (character :: rest) with
        | some behind =>
          (readLines escapes quote fuel behind).map fun read => ('\n' :: read.1, read.2)
        | none =>
          if isPlain character then
            (readLines escapes quote fuel rest).map fun read => (character :: read.1, read.2)
          else none

/-- A string on one line. -/
def readShort (characters : List Char) : Option (List Char × List Char) :=
  match characters with
  | '"' :: rest => readLine true '"' characters.length rest
  | '\'' :: rest => readLine false '\'' characters.length rest
  | _ => none

/-- A string; a line break directly behind three quotes does not count. -/
def readString (characters : List Char) : Option (List Char × List Char) :=
  match characters with
  | '"' :: '"' :: '"' :: rest =>
    readLines true '"' characters.length ((dropBreak? rest).getD rest)
  | '\'' :: '\'' :: '\'' :: rest =>
    readLines false '\'' characters.length ((dropBreak? rest).getD rest)
  | _ => readShort characters

/-- Whether digits stand alone or with single underscores between them. -/
def isDigitRun (isDigit : Char → Bool) : List Char → Bool
  | [] => false
  | [last] => isDigit last
  | first :: '_' :: rest => isDigit first && isDigitRun isDigit rest
  | first :: rest => isDigit first && isDigitRun isDigit rest

/-- Whether digits make up a whole number: no leading zeros. -/
def isWhole (digits : List Char) : Bool :=
  isDigitRun Numeral.isDigit digits &&
    (match digits with
      | '0' :: _ :: _ => false
      | _ => true)

/-- Digits without the underscores between them. -/
def withoutBars (digits : List Char) : List Char :=
  digits.filter (· != '_')

/-- Whether a run is a whole number of at most a hundred and twenty-eight bits. -/
def isInteger (run : List Char) : Bool :=
  let radix (base : Nat) (digits : List Char) : Bool :=
    isDigitRun (fun digit => (Numeral.digitValue? base digit).isSome) digits &&
      ((Numeral.natural? base (withoutBars digits)).any fun value => decide (value < Nat.pow 2 128))
  match run with
  | '0' :: 'x' :: digits => radix 16 digits
  | '0' :: 'o' :: digits => radix 8 digits
  | '0' :: 'b' :: digits => radix 2 digits
  | _ =>
    let (negative, digits) := Decimal.splitSign run
    let limit := if negative then Nat.pow 2 127 else Nat.pow 2 128 - 1
    isWhole digits &&
      ((Numeral.natural? 10 (withoutBars digits)).any fun value => decide (value ≤ limit))

/-- Whether a run is a number with a fraction or an exponent that is not too great. -/
def isFloat (run : List Char) : Bool :=
  let (_, unsigned) := Decimal.splitSign run
  if unsigned = ['i', 'n', 'f'] || unsigned = ['n', 'a', 'n'] then true
  else
    let isMark (character : Char) : Bool := character = 'e' || character = 'E'
    let mantissa := unsigned.takeWhile fun character => !isMark character
    let whole := mantissa.takeWhile (· != '.')
    let fraction := mantissa.dropWhile (· != '.')
    let exponent := unsigned.dropWhile fun character => !isMark character
    let fractionFits := fraction.isEmpty || isDigitRun Numeral.isDigit (fraction.drop 1)
    let exponentFits :=
      exponent.isEmpty || isDigitRun Numeral.isDigit (Decimal.splitSign (exponent.drop 1)).2
    isWhole whole && fractionFits && exponentFits && !(fraction.isEmpty && exponent.isEmpty)
      && (Decimal.read? (withoutBars unsigned)).isSome

/-- A number of exactly so many digits, within bounds, and what follows it. -/
def fixed? (count least greatest : Nat) (characters : List Char) : Option (Nat × List Char) :=
  let digits := characters.take count
  if digits.length = count && digits.all Numeral.isDigit then
    match Numeral.natural? 10 digits with
    | some value =>
      if least ≤ value ∧ value ≤ greatest then some (value, characters.drop count) else none
    | none => none
  else none

/-- How many days a month has. -/
def daysIn (year month : Nat) : Nat :=
  if month = 2 then
    if year % 4 = 0 && (year % 100 != 0 || year % 400 = 0) then 29 else 28
  else if [4, 6, 9, 11].contains month then 30
  else 31

/-- What follows a date in front. -/
def behindDate? (characters : List Char) : Option (List Char) :=
  match fixed? 4 0 9999 characters with
  | some (year, '-' :: behindYear) =>
    match fixed? 2 1 12 behindYear with
    | some (month, '-' :: behindMonth) =>
      (fixed? 2 1 (daysIn year month) behindMonth).map Prod.snd
    | _ => none
  | _ => none

/-- What follows a time of day in front. -/
def behindTime? (characters : List Char) : Option (List Char) :=
  match fixed? 2 0 23 characters with
  | some (_, ':' :: behindHour) =>
    match fixed? 2 0 59 behindHour with
    | some (_, ':' :: behindMinute) =>
      match fixed? 2 0 60 behindMinute with
      | some (_, '.' :: fraction) =>
        if (fraction.takeWhile Numeral.isDigit).isEmpty then none
        else some (fraction.dropWhile Numeral.isDigit)
      | some (_, rest) => some rest
      | none => none
    | _ => none
  | _ => none

/-- Whether characters are nothing or an offset from universal time. -/
def isOffset : List Char → Bool
  | [] | ['Z'] | ['z'] => true
  | sign :: rest =>
    (sign = '+' || sign = '-') &&
      (match fixed? 2 0 23 rest with
        | some (_, ':' :: minutes) =>
          (match fixed? 2 0 59 minutes with
            | some (_, []) => true
            | _ => false)
        | _ => false)

/-- Whether a run is a date, a time of day or both, with an offset perhaps behind both. -/
def isDateTime (run : List Char) : Bool :=
  match behindTime? run with
  | some rest => rest.isEmpty
  | none =>
    match behindDate? run with
    | some [] => true
    | some (separator :: time) =>
      [' ', 'T', 't'].contains separator &&
        (match behindTime? time with
          | some offset => isOffset offset
          | none => false)
    | none => false

/-- Whether a character may stand in a number or a date. -/
def isRunCharacter (character : Char) : Bool :=
  character.isAlphanum || ['+', '-', '.', ':', '_'].contains character

/-- The run of characters in front; a blank may stand between a date and a time. -/
def spanRun (characters : List Char) : List Char × List Char :=
  let run := characters.takeWhile isRunCharacter
  let rest := characters.dropWhile isRunCharacter
  match behindDate? run, rest with
  | some [], ' ' :: time =>
    if (time.head?.map Numeral.isDigit).getD false then
      (run ++ ' ' :: time.takeWhile isRunCharacter, time.dropWhile isRunCharacter)
    else (run, rest)
  | _, _ => (run, rest)

end Stencil.Toml
