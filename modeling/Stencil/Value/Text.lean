import Stencil.Value.Basic

/-!
# The text of a document

A document has a compact text without blanks and an indented one.  In both, a
text is quoted the same way: a quotation mark, a backslash and the controls
below the space are escaped and every other character stands for itself.
-/

namespace Stencil.Value

/-- The hexadecimal digits of a number below 256, in lower case. -/
def hexPair (code : Nat) : List Char :=
  [Nat.digitChar (code / 16), Nat.digitChar (code % 16)]

/-- One character of a quoted text. -/
def escape (character : Char) : List Char :=
  if character = '"' then ['\\', '"']
  else if character = '\\' then ['\\', '\\']
  else if character = '\n' then ['\\', 'n']
  else if character = '\t' then ['\\', 't']
  else if character = '\r' then ['\\', 'r']
  else if character = '\x08' then ['\\', 'b']
  else if character = '\x0c' then ['\\', 'f']
  else if character.toNat < 0x20 then ['\\', 'u', '0', '0'] ++ hexPair character.toNat
  else [character]

/-- A text between quotation marks. -/
def quoted (text : List Char) : List Char :=
  '"' :: text.flatMap escape ++ ['"']

mutual

/-- The compact text of a value. -/
def compactChars : Value → List Char
  | .null => ['n', 'u', 'l', 'l']
  | .bool true => ['t', 'r', 'u', 'e']
  | .bool false => ['f', 'a', 'l', 's', 'e']
  | .number quantity => quantity.text
  | .text content => quoted content.toList
  | .array [] => ['[', ']']
  | .array (item :: rest) => '[' :: (compactChars item ++ compactItems rest)
  | .object [] => ['\x7b', '\x7d']
  | .object ((name, item) :: rest) =>
    '\x7b' :: (quoted name.toList ++ ':' :: (compactChars item ++ compactMembers rest))

/-- The items behind the first, up to the closing bracket. -/
def compactItems : List Value → List Char
  | [] => [']']
  | item :: rest => ',' :: (compactChars item ++ compactItems rest)

/-- The members behind the first, up to the closing brace. -/
def compactMembers : List (String × Value) → List Char
  | [] => ['\x7d']
  | (name, item) :: rest =>
    ',' :: (quoted name.toList ++ ':' :: (compactChars item ++ compactMembers rest))

end

/-- The compact text of a value. -/
def compact (value : Value) : String :=
  String.ofList (compactChars value)

/-- The text of a value in messages and conversions: a text is its own, without quotes. -/
def plainText : Value → String
  | .text content => content
  | value => compact value

/-- A line break and the indentation of a nesting level, two blanks each. -/
def lineBreak (level : Nat) : List Char :=
  '\n' :: List.replicate (2 * level) ' '

mutual

/-- The indented text of a value at a nesting level; empty containers stay on one line. -/
def indentedChars (level : Nat) : Value → List Char
  | .array [] => ['[', ']']
  | .array (item :: rest) =>
    '[' :: (lineBreak (level + 1) ++ indentedChars (level + 1) item
      ++ indentedItems level rest)
  | .object [] => ['\x7b', '\x7d']
  | .object ((name, item) :: rest) =>
    '\x7b' :: (lineBreak (level + 1) ++ quoted name.toList ++ ':' :: ' ' ::
      (indentedChars (level + 1) item ++ indentedMembers level rest))
  | scalar => compactChars scalar

/-- The items behind the first, up to the closing bracket. -/
def indentedItems (level : Nat) : List Value → List Char
  | [] => lineBreak level ++ [']']
  | item :: rest =>
    ',' :: (lineBreak (level + 1) ++ indentedChars (level + 1) item
      ++ indentedItems level rest)

/-- The members behind the first, up to the closing brace. -/
def indentedMembers (level : Nat) : List (String × Value) → List Char
  | [] => lineBreak level ++ ['\x7d']
  | (name, item) :: rest =>
    ',' :: (lineBreak (level + 1) ++ quoted name.toList ++ ':' :: ' ' ::
      (indentedChars (level + 1) item ++ indentedMembers level rest))

end

/-- The indented text of a value. -/
def indented (value : Value) : String :=
  String.ofList (indentedChars 0 value)

end Stencil.Value
