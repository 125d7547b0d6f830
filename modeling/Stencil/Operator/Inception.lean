import Stencil.Operator.Token

/-!
# Inception operators

An inception composes the templates under a node.  Its mode is one character:
`.` chains them, `>` renders them all on what the first one yields and `%` pairs
them with the items of what the first one yields.  The depth bounds the levels
of nested inceptions, this one included; it is given by repeating the character
or as a number behind it, and without either there is no bound.
-/

namespace Stencil

/-- How an inception composes its templates. -/
inductive InceptionMode where
  | lens
  | lead
  | zip
deriving DecidableEq

namespace InceptionMode

/-- The character of a mode. -/
def mark : InceptionMode → Char
  | .lens => '.'
  | .lead => '>'
  | .zip => '%'

/-- The mode of a character. -/
def ofMark? : Char → Option InceptionMode
  | '.' => some .lens
  | '>' => some .lead
  | '%' => some .zip
  | _ => none

/-- The mode a token stands for: its character alone. -/
def parse (token : String) : Except TokenError InceptionMode :=
  let mode? :=
    match Text.trim token.toList with
    | [character] => ofMark? character
    | _ => none
  match mode? with
  | some mode => .ok mode
  | none => .error (.unknown .inception token)

/-- The token of a mode. -/
def display (mode : InceptionMode) : String :=
  String.ofList [mode.mark]

@[simp]
theorem ofMark?_mark (mode : InceptionMode) : ofMark? mode.mark = some mode := by
  cases mode <;> rfl

end InceptionMode

/-- How many levels of nested inception a composition may reach. -/
inductive Depth where
  | finite (levels : Nat)
  | unbounded
deriving DecidableEq

namespace Depth

/-- What is left for the templates below; nothing when no level is left to compose. -/
def below? : Depth → Option Depth
  | .finite 0 => none
  | .finite (levels + 1) => some (.finite levels)
  | .unbounded => some .unbounded

/-- The tighter of two bounds. -/
def tighter : Depth → Depth → Depth
  | .finite own, .finite budget => .finite (min own budget)
  | .finite levels, .unbounded => .finite levels
  | .unbounded, .finite levels => .finite levels
  | .unbounded, .unbounded => .unbounded

end Depth

/-- An inception declaration. -/
structure Inception where
  /-- How templates are composed. -/
  mode : InceptionMode
  /-- How deep inceptions may nest. -/
  depth : Depth
deriving DecidableEq

namespace Inception

/-- The depth that the characters behind the mark stand for. -/
def depthOf? (mark : Char) (rest : List Char) : Option Depth :=
  match rest with
  | [] => some .unbounded
  | next :: _ =>
    if next = mark then
      if rest.all (· == mark) then some (.finite (rest.length + 1)) else none
    else (Numeral.count? (Text.trim rest)).map Depth.finite

/-- The operator a token stands for. -/
def parse (token : String) : Except TokenError Inception :=
  match Text.trim token.toList with
  | [] => .error (.unknown .inception token)
  | mark :: rest =>
    match InceptionMode.ofMark? mark with
    | none => .error (.unknown .inception token)
    | some mode =>
      match depthOf? mark rest with
      | some depth => .ok ⟨mode, depth⟩
      | none => .error (.invalidDepth token)

/-- The characters of the token of an operator. -/
def chars (inception : Inception) : List Char :=
  match inception.depth with
  | .unbounded => [inception.mode.mark]
  | .finite levels => inception.mode.mark :: Numeral.decimal levels

/-- The token of an operator. -/
def display (inception : Inception) : String :=
  String.ofList inception.chars

end Inception

end Stencil
