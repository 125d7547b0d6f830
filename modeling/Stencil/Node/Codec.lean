import Stencil.Node.Basic

/-!
# Nodes as documents

A node is written as an object whose absent parts are left out, and read from
such an object or from an array of its fields in order.  Fields are read in the
order in which the document holds them, so the first one that cannot be read
decides the error.  Members with other names are ignored.
-/

namespace Stencil

/-- Why a document is not a node. -/
inductive DecodeError where
  | shape
  | token (error : TokenError)
  | depth (marker : String)
deriving DecidableEq

namespace DecodeError

/-- The wording of an error, where it has one of its own. -/
def message? : DecodeError → Option String
  | .shape => none
  | .token error => some error.message
  | .depth marker => some s!"invalid inception depth '{marker}'"

end DecodeError

/-- The document of an optional token; null when it is absent. -/
def decodeToken {Operator : Type}
    (parse : String → Except TokenError Operator) :
    Value → Except DecodeError (Option Operator)
  | .null => .ok none
  | .text token =>
    match parse token with
    | .ok operator => .ok (some operator)
    | .error error => .error (.token error)
  | _ => .error .shape

section Fields

variable {Target : Type}
  (decodeField : Target → String → Value → Except DecodeError Target)

/-- Read fields one after the other. -/
def decodeFields (target : Target) :
    List (String × Value) → Except DecodeError Target
  | [] => .ok target
  | (name, value) :: rest =>
    match decodeField target name value with
    | .ok next => decodeFields next rest
    | .error error => .error error

/-- Read the fields of an object, or of an array that holds their values in order. -/
def decodeRecord (fieldNames : List String) (target : Target) :
    Value → Except DecodeError Target
  | .object members => decodeFields decodeField target members
  | .array items =>
    match decodeFields decodeField target (fieldNames.zip items) with
    | .ok final => if items.length ≤ fieldNames.length then .ok final else .error .shape
    | .error error => .error error
  | _ => .error .shape

end Fields

namespace Depth

/-- The text of a depth without a bound. -/
def unboundedText : String := "unbounded"

/-- The document of a depth. -/
def encode : Depth → Value
  | .finite levels => .ofNat levels
  | .unbounded => .text unboundedText

/-- The depth of a document. -/
def decode : Value → Except DecodeError Depth
  | .number quantity =>
    match quantity.toCount? with
    | some levels => .ok (.finite levels)
    | none => .error .shape
  | .text marker =>
    if marker = unboundedText then .ok .unbounded else .error (.depth marker)
  | _ => .error .shape

end Depth

namespace Operators

/-- Set the operator of a named family to what a document holds; other names are ignored. -/
def decodeField (operators : Operators) (name : String) (value : Value) :
    Except DecodeError Operators :=
  if name = "query" then
    (decodeToken Take.parse value).map fun query => { operators with query }
  else if name = "constraints" then
    (decodeToken Constraint.parse value).map fun constraint => { operators with constraint }
  else if name = "symbol" then
    (decodeToken SymbolOperator.parse value).map fun symbol => { operators with symbol }
  else if name = "enumerate" then
    (decodeToken Enumeration.parse value).map fun enumerate => { operators with enumerate }
  else if name = "inception" then
    (decodeToken Inception.parse value).map fun inception => { operators with inception }
  else .ok operators

/-- The names of the families, in the order of the fields. -/
def fieldNames : List String :=
  ["query", "constraints", "symbol", "enumerate", "inception"]

/-- The operators of a document. -/
def decode : Value → Except DecodeError Operators :=
  decodeRecord decodeField fieldNames {}

/-- The document of operators: the tokens of those declared. -/
def encode (operators : Operators) : Value :=
  let token (name : String) (display? : Option String) : List (String × Value) :=
    (display?.map fun display => (name, Value.text display)).toList
  .object
    (token "query" (operators.query.map Take.display)
      ++ token "constraints" (operators.constraint.map Constraint.display)
      ++ token "symbol" (operators.symbol.map SymbolOperator.display)
      ++ token "enumerate" (operators.enumerate.map Enumeration.display)
      ++ token "inception" (operators.inception.map Inception.display))

end Operators

namespace Node

/-- The marker of a document: a whole number below 256. -/
def decodeMark : Value → Except DecodeError Mark
  | .number quantity =>
    match quantity.toCount? with
    | some mark => if mark < 256 then .ok (UInt8.ofNat mark) else .error .shape
    | none => .error .shape
  | _ => .error .shape

/-- Set a named field to what a document holds; other names are ignored. -/
def decodeField (node : Node) (name : String) (value : Value) : Except DecodeError Node :=
  if name = "path" then
    match value with
    | .text path => .ok { node with path }
    | _ => .error .shape
  else if name = "operators" then
    (Operators.decode value).map fun operators => { node with operators }
  else if name = "pipes" then
    match value with
    | .null => .ok { node with pipes := none }
    | .object members => .ok { node with pipes := some members }
    | _ => .error .shape
  else if name = "value" then
    match value with
    | .null => .ok { node with value := none }
    | held => .ok { node with value := some held }
  else if name = "@meta" then
    (decodeMark value).map fun mark => { node with mark }
  else if name = "tag" then
    match value with
    | .null => .ok { node with tag := none }
    | .text tag => .ok { node with tag := some tag }
    | _ => .error .shape
  else if name = "$inception" then
    (decodeToken InceptionMode.parse value).map fun mode => { node with mode }
  else if name = "$depth" then
    match value with
    | .null => .ok { node with depth := none }
    | held => (Depth.decode held).map fun depth => { node with depth := some depth }
  else .ok node

/-- The names of the fields of a node, in order. -/
def fieldNames : List String :=
  ["path", "operators", "pipes", "value", "@meta", "tag", "$inception", "$depth"]

/-- The node of a document. -/
def decode : Value → Except DecodeError Node :=
  decodeRecord decodeField fieldNames {}

/-- The document of a node. -/
def encode (node : Node) : Value :=
  let optional (name : String) (value? : Option Value) : List (String × Value) :=
    (value?.map fun value => (name, value)).toList
  let operators :=
    if node.operators.isEmpty then none else some node.operators.encode
  .object
    ([("path", .text node.path)]
      ++ optional "operators" operators
      ++ optional "pipes" (node.pipes.map Value.object)
      ++ optional "value" node.value
      ++ [("@meta", .ofNat node.mark.toNat)]
      ++ optional "tag" (node.tag.map Value.text)
      ++ optional "$inception" (node.mode.map fun mode => .text mode.display)
      ++ optional "$depth" (node.depth.map Depth.encode))

end Node

end Stencil
