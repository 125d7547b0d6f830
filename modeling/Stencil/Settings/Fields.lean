import Stencil.Settings
import Stencil.Value.Reader

/-!
# Fields of settings

However settings are written, they come down to named fields.  Fields that are
left out keep their defaults, other names are ignored, and no field may be
written twice.
-/

namespace Stencil

/-- What a written value is as a text and as a truth value, if it is one. -/
structure Written where
  /-- The text. -/
  text : Option String := none
  /-- The truth value. -/
  truth : Option Bool := none
deriving DecidableEq

/-- What a value of a document is. -/
def Written.ofValue : Value → Written
  | .text content => { text := some content }
  | .bool truth => { truth := some truth }
  | _ => {}

namespace Settings

/-- The name of the field that says whether arguments are read as literals. -/
def literalName : String := "literal_arguments"

/-- The names of the fields, in order. -/
def fieldNames : List String :=
  SourceField.all.map SourceField.name ++ [literalName]

/-- Set a named field; other names are ignored. -/
def setField (settings : Settings) (name : String) (written : Written) : Option Settings :=
  if name = SourceField.origin.name then
    written.text.map fun content => { settings with originSource := content }
  else if name = SourceField.fallback.name then
    written.text.map fun content => { settings with fallbackSource := content }
  else if name = SourceField.tag.name then
    written.text.map fun content => { settings with tagSource := content }
  else if name = literalName then
    written.truth.map fun truth => { settings with literalArguments := truth }
  else some settings

/-- Set fields one after the other. -/
def setFields (settings : Settings) : List (String × Written) → Option Settings
  | [] => some settings
  | (name, written) :: rest =>
    (settings.setField name written).bind fun next => next.setFields rest

/-- The settings of named fields, of which none is written twice. -/
def ofFields? (fields : List (String × Written)) : Option Settings :=
  let names := (fields.map Prod.fst).filter fieldNames.contains
  if names.Nodup then setFields {} fields else none

/-- The settings of the first fields in order. -/
def ofItems? (items : List Written) : Option Settings :=
  if items.length ≤ fieldNames.length then ofFields? (fieldNames.zip items) else none

/-- The settings of a text that holds an object of fields or an array of them in order. -/
def ofJson? (text : String) : Option Settings :=
  match Value.readMembers? text with
  | some members =>
    ofFields? (members.map fun (name, value) => (name, Written.ofValue value))
  | none =>
    ((Value.read? text).bind Value.asItems?).bind fun items =>
      ofItems? (items.map Written.ofValue)

end Settings

end Stencil
