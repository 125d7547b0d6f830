import Stencil.Operator.Token

/-!
# Constraints

A constraint supplies a value where a path has none.  `?` keeps a defined value
and else takes a literal or looks the path up in a fallback source; `!=` looks
the path up in an alternate source; `!` hands the value to a named handler.
What stands behind the mark is a list of arguments with colons between them, of
which two are kept.
-/

namespace Stencil

/-- A constraint of a node. -/
inductive Constraint where
  | fallback (source : Option String) (literal : Option String)
  | alternate (source : String) (literal : Option String)
  | handler (name : Option String) (argument : Option String)
deriving DecidableEq

namespace Constraint

/-- A text that is not empty. -/
def named? (characters : List Char) : Option String :=
  if characters.isEmpty then none else some (String.ofList characters)

/-- The constraint that a mark, perhaps followed by `=`, makes of its arguments. -/
def ofArguments? (mark : Char) (equals : Bool) (arguments : List (List Char)) :
    Option Constraint :=
  let first := arguments.head?
  let second := (arguments[1]?).map String.ofList
  if mark = '?' then some (.fallback (first.bind named?) second)
  else if mark = '!' then
    if equals then some (.alternate (String.ofList (first.getD [])) second)
    else some (.handler (first.bind named?) second)
  else none

/-- The constraint a trimmed token stands for. -/
def ofChars? : List Char → Option Constraint
  | [] => none
  | [mark] => ofArguments? mark false []
  | mark :: '=' :: rest => ofArguments? mark true (Text.arguments rest)
  | mark :: rest => ofArguments? mark false (Text.arguments rest)

/-- The constraint a token stands for. -/
def parse (token : String) : Except TokenError Constraint :=
  match ofChars? (Text.trim token.toList) with
  | some constraint => .ok constraint
  | none => .error (.unknown .constraints token)

/-- A further argument and the colon in front of it. -/
def furtherChars (argument : Option String) : List Char :=
  match argument with
  | some content => ':' :: content.toList
  | none => []

/-- The characters of the token of a constraint. -/
def chars : Constraint → List Char
  | .fallback none none => ['?']
  | .fallback source literal =>
    '?' :: '=' :: ((source.getD "").toList ++ furtherChars literal)
  | .alternate source literal => '!' :: '=' :: (source.toList ++ furtherChars literal)
  | .handler name argument => '!' :: ((name.getD "").toList ++ furtherChars argument)

/-- The token of a constraint. -/
def display (constraint : Constraint) : String :=
  String.ofList constraint.chars

end Constraint

end Stencil
