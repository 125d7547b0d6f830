import Stencil.Path.Spelling
import Stencil.Query.Reader
import Stencil.Query.Select

/-!
# Paths as they are written

A path may be written bare or root-qualified; normalizing qualifies it.  A path
that has to name one place is read by the singular grammar.  When that fails,
the error tells apart a query that may reach several places from a text that is
no path at all.
-/

namespace Stencil

/-- Why a path could not be used. -/
inductive PathError where
  | malformed (path : String)
  | notSingular (path : String)
  | indexOutOfRange (path : String) (index length : Nat)
deriving DecidableEq

namespace PathError

/-- The wording of an error; a malformed path is worded by whoever reads it. -/
def message? : PathError → Option String
  | .malformed _ => none
  | .notSingular path => some s!"Path '{path}' does not address a single location"
  | .indexOutOfRange path index length =>
    some s!"Index {index} in '{path}' is too far past the end of an array of length {length}"

end PathError

namespace Path

/-- The characters of a path, qualified by the root. -/
def qualify : List Char → List Char
  | '$' :: rest => '$' :: rest
  | '.' :: rest => '$' :: '.' :: rest
  | '[' :: rest => '$' :: '[' :: rest
  | characters => '$' :: '.' :: characters

/-- A path qualified by the root. -/
def qualified (path : String) : String :=
  String.ofList (qualify path.toList)

/-- The location that a path names, however it is spelled. -/
def locate (path : String) : Except PathError Location :=
  let normalized := String.ofList (qualify (Text.trim path.toList))
  match Location.read? normalized.toList with
  | some location => .ok location
  | none =>
    if (Query.read? normalized).isSome then .error (.notSingular normalized)
    else .error (.malformed normalized)

/-- The canonical text of the location that a path names. -/
def canonical (path : String) : Except PathError String :=
  (locate path).map Location.text

/-- What a path picks from a document, as it is written. -/
def select (document : Value) (path : String) : Except PathError (List Value) :=
  match Query.read? path with
  | some query => .ok (query.select document)
  | none => .error (.malformed path)

end Path

end Stencil
