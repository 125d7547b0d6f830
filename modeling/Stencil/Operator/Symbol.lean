import Stencil.Operator.Token

/-!
# Symbols and enumeration

`#` records the value of a node under a tag path, its own context without one;
`:` is reserved.  `*` expands a container into its elements and `**` into pairs
of index or name and element.
-/

namespace Stencil

/-- A symbol declaration. -/
inductive SymbolOperator where
  | reserved
  | tag (path : Option String)
deriving DecidableEq

namespace SymbolOperator

/-- The operator a trimmed token stands for. -/
def ofChars? : List Char → Option SymbolOperator
  | '#' :: rest =>
    let path := Text.trim rest
    some (.tag (if path.isEmpty then none else some (String.ofList path)))
  | ':' :: _ => some .reserved
  | _ => none

/-- The operator a token stands for; an error shows the token without blanks around it. -/
def parse (token : String) : Except TokenError SymbolOperator :=
  let trimmed := Text.trim token.toList
  match ofChars? trimmed with
  | some operator => .ok operator
  | none => .error (.unknown .symbol (String.ofList trimmed))

/-- The characters of the token of an operator. -/
def chars : SymbolOperator → List Char
  | .reserved => [':']
  | .tag path => '#' :: (path.getD "").toList

/-- The token of an operator. -/
def display (operator : SymbolOperator) : String :=
  String.ofList operator.chars

end SymbolOperator

/-- How a container is expanded into a sequence. -/
inductive Enumeration where
  | elements
  | entries
deriving DecidableEq

namespace Enumeration

/-- The operator a trimmed token stands for. -/
def ofChars? : List Char → Option Enumeration
  | ['*'] => some .elements
  | ['*', '*'] => some .entries
  | _ => none

/-- The operator a token stands for. -/
def parse (token : String) : Except TokenError Enumeration :=
  match ofChars? (Text.trim token.toList) with
  | some operator => .ok operator
  | none => .error (.unknown .enumerate token)

/-- The characters of the token of an operator. -/
def chars : Enumeration → List Char
  | .elements => ['*']
  | .entries => ['*', '*']

/-- The token of an operator. -/
def display (operator : Enumeration) : String :=
  String.ofList operator.chars

end Enumeration

end Stencil
