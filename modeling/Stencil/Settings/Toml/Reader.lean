import Stencil.Settings.Toml.Scalar
import Stencil.Settings.Toml.Table

/-!
# Reading tables

A text is a sequence of lines, each with a header, a key and its value, or only
a comment.  Arrays and strings may go on over several lines.  Each function
returns what it read and the characters behind it, and the argument `fuel`
bounds the calls by the length of the text.
-/

namespace Stencil.Toml

/-- The blanks in front, taken away. -/
def skipBlanks (characters : List Char) : List Char :=
  characters.dropWhile fun character => character = ' ' || character = '\t'

/-- What follows a comment, which goes on to the end of its line. -/
def skipComment : List Char → List Char
  | '#' :: rest => rest.dropWhile isPlain
  | characters => characters

/-- What follows the end of a line: blanks, perhaps a comment, and a break or the end. -/
def endLine? (characters : List Char) : Option (List Char) :=
  let rest := skipComment (skipBlanks characters)
  if rest.isEmpty then some [] else dropBreak? rest

/-- The blanks, comments and line breaks in front, taken away. -/
def skipLines : Nat → List Char → List Char
  | 0, characters => characters
  | fuel + 1, characters =>
    let rest := skipComment (skipBlanks characters)
    match dropBreak? rest with
    | some behind => skipLines fuel behind
    | none => rest

/-- Whether a character may stand in a key without quotes. -/
def isKeyCharacter (character : Char) : Bool :=
  character.isAlphanum || character = '_' || character = '-'

/-- One part of a key. -/
def readName (characters : List Char) : Option (String × List Char) :=
  match characters with
  | '"' :: _ | '\'' :: _ =>
    (readShort characters).map fun read => (String.ofList read.1, read.2)
  | _ =>
    let name := characters.takeWhile isKeyCharacter
    if name.isEmpty then none
    else some (String.ofList name, characters.dropWhile isKeyCharacter)

/-- A key: parts with points between them, and blanks around those. -/
def readKey : Nat → List Char → Option (List String × List Char)
  | 0, _ => none
  | fuel + 1, characters =>
    match readName (skipBlanks characters) with
    | none => none
    | some (name, behind) =>
      match skipBlanks behind with
      | '.' :: rest => (readKey fuel rest).map fun read => (name :: read.1, read.2)
      | rest => some ([name], rest)

mutual

/-- A value. -/
def readItem : Nat → List Char → Option (Written × List Char)
  | 0, _ => none
  | fuel + 1, characters =>
    match characters with
    | '"' :: _ | '\'' :: _ =>
      (readString characters).map fun read =>
        ({ text := some (String.ofList read.1) }, read.2)
    | '[' :: rest => (readArray fuel (skipLines rest.length rest)).map fun behind => ({}, behind)
    | '\x7b' :: rest =>
      match skipBlanks rest with
      | '\x7d' :: behind => some ({}, behind)
      | first => (readInline fuel [] first).map fun behind => ({}, behind)
    | _ =>
      let (run, behind) := spanRun characters
      if run = ['t', 'r', 'u', 'e'] then some ({ truth := some true }, behind)
      else if run = ['f', 'a', 'l', 's', 'e'] then some ({ truth := some false }, behind)
      else if isInteger run || isFloat run || isDateTime run then some ({}, behind)
      else none

/-- What follows the items of an array and its closing bracket. -/
def readArray : Nat → List Char → Option (List Char)
  | 0, _ => none
  | fuel + 1, characters =>
    match characters with
    | ']' :: rest => some rest
    | _ =>
      match readItem fuel characters with
      | none => none
      | some (_, behind) =>
        match skipLines behind.length behind with
        | ']' :: rest => some rest
        | ',' :: rest => readArray fuel (skipLines rest.length rest)
        | _ => none

/-- What follows the entries of a table on one line and its closing brace. -/
def readInline : Nat → Entries → List Char → Option (List Char)
  | 0, _, _ => none
  | fuel + 1, entries, characters =>
    match readKey characters.length characters with
    | some (key, '=' :: rest) =>
      match readItem fuel (skipBlanks rest) with
      | none => none
      | some (written, behind) =>
        match Entries.assign .opened (.value written) key entries with
        | none => none
        | some next =>
          match skipBlanks behind with
          | '\x7d' :: after => some after
          | ',' :: after => readInline fuel next after
          | _ => none
    | _ => none

end

/-- What a line of a text says. -/
inductive Line where
  | entry (key : List String) (written : Written)
  | header (path : List String)
  | nextHeader (path : List String)

/-- A line that is not blank, up to its end. -/
def readEntry (characters : List Char) : Option (Line × List Char) :=
  let fuel := 2 * characters.length + 2
  match characters with
  | '[' :: '[' :: rest =>
    match readKey fuel rest with
    | some (path, ']' :: ']' :: behind) => some (.nextHeader path, behind)
    | _ => none
  | '[' :: rest =>
    match readKey fuel rest with
    | some (path, ']' :: behind) => some (.header path, behind)
    | _ => none
  | _ =>
    match readKey fuel characters with
    | some (key, '=' :: rest) =>
      (readItem fuel (skipBlanks rest)).map fun read => (.entry key read.1, read.2)
    | _ => none

/-- The table of a text, from the table that the last header opened. -/
def readLinesBelow : Nat → List String → Entries → List Char → Option Entries
  | 0, _, _, _ => none
  | fuel + 1, place, entries, characters =>
    match skipLines characters.length characters with
    | [] => some entries
    | rest =>
      match readEntry rest with
      | none => none
      | some (line, behind) =>
        let next? :=
          match line with
          | .entry key written =>
            (Entries.assignBelow key (.value written) place entries).map fun next => (place, next)
          | .header path => (Entries.openTable path entries).map fun next => (path, next)
          | .nextHeader path => (Entries.openNext path entries).map fun next => (path, next)
        match next?, endLine? behind with
        | some (opened, next), some after => readLinesBelow fuel opened next after
        | _, _ => none

/-- The table that a text holds. -/
def read? (text : String) : Option Entries :=
  let characters :=
    match text.toList with
    | '\ufeff' :: rest => rest
    | all => all
  readLinesBelow (characters.length + 1) [] [] characters

end Stencil.Toml

/-- The settings of a text of keys and values. -/
def Stencil.Settings.ofToml? (text : String) : Option Stencil.Settings :=
  (Stencil.Toml.read? text).bind fun entries =>
    Stencil.Settings.ofFields? (entries.map fun (name, item) => (name, item.written))
