import Stencil.Text.Blank

/-!
# Settings

The settings of an evaluation name the sources that have a role of their own
and say whether arguments of operators are read as literals.
-/

namespace Stencil

/-- The settings of an evaluation. -/
structure Settings where
  /-- The source that paths are followed in, and on which leading templates are rendered. -/
  originSource : String := "origin"
  /-- The source that `?` consults when it names none. -/
  fallbackSource : String := "default"
  /-- The name under which constraints find the recorded tags. -/
  tagSource : String := "tags"
  /-- Whether an argument that holds a document stands for it. -/
  literalArguments : Bool := true
deriving DecidableEq

/-- The settings that name a source. -/
inductive SourceField where
  | origin
  | fallback
  | tag
deriving DecidableEq

namespace SourceField

/-- The name of a setting. -/
def name : SourceField → String
  | .origin => "origin_source"
  | .fallback => "fallback_source"
  | .tag => "tag_source"

/-- The fields in the order in which they are checked. -/
def all : List SourceField := [.origin, .fallback, .tag]

end SourceField

/-- The formats of written settings. -/
inductive SettingsFormat where
  | toml
  | json
  | yaml
deriving DecidableEq

namespace SettingsFormat

/-- The name of a format. -/
def name : SettingsFormat → String
  | .toml => "toml"
  | .json => "json"
  | .yaml => "yaml"

end SettingsFormat

/-- Why settings could not be used. -/
inductive SettingsError where
  | unreadable (path : String)
  | malformed (format : SettingsFormat)
  | unsupportedFormat (name : String)
  | emptyName (field : SourceField)
  | shadowsOrigin (name : String)
deriving DecidableEq

namespace SettingsError

/-- The wording of an error, where it is not worded by whoever reads the file or its text. -/
def message? : SettingsError → Option String
  | .unreadable _ => none
  | .malformed _ => none
  | .unsupportedFormat name => some ("Unsupported config format: " ++ name)
  | .emptyName field =>
    some s!"Invalid value for {field.name}: source name must not be empty"
  | .shadowsOrigin name =>
    some s!"Invalid value for {SourceField.tag.name}: '{name}' shadows the origin source"

end SettingsError

namespace Settings

/-- The source that a field names. -/
def source (settings : Settings) : SourceField → String
  | .origin => settings.originSource
  | .fallback => settings.fallbackSource
  | .tag => settings.tagSource

/-- The settings, unless a source has a blank name or the tags would hide the origin. -/
def validate (settings : Settings) : Except SettingsError Settings :=
  let blank (field : SourceField) : Bool :=
    (Text.trim (settings.source field).toList).isEmpty
  match SourceField.all.find? blank with
  | some field => .error (.emptyName field)
  | none =>
    if settings.tagSource = settings.originSource then
      .error (.shadowsOrigin settings.tagSource)
    else .ok settings

end Settings

end Stencil
