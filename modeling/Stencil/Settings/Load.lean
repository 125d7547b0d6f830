import Stencil.Settings.Toml.Reader
import Stencil.Settings.Yaml.Reader
import Stencil.Text.Pieces

/-!
# Loading settings

The format of a file of settings is told by the extension of its name, whatever
the case of its letters.  It is decided before the file is read, and settings
are validated after they are read.
-/

namespace Stencil

namespace SettingsFormat

/-- The name of the file at a path: its last part, unless that leads to the parent. -/
def fileName? (path : List Char) : Option (List Char) :=
  let parts := (Text.cutAt '/' path).filter fun part => !part.isEmpty && part != ['.']
  match parts.getLast? with
  | some name => if name = ['.', '.'] then none else some name
  | none => none

/-- The extension of the name of a file: what follows its last point, unless it starts with that. -/
def extension? (name : List Char) : Option (List Char) :=
  let reversed := name.reverse
  let extension := (reversed.takeWhile (· != '.')).reverse
  match reversed.dropWhile (· != '.') with
  | [] | [_] => none
  | _ => some extension

/-- The format of the file at a path. -/
def ofPath (path : String) : Except SettingsError SettingsFormat :=
  let extension := (((fileName? path.toList).bind extension?).getD []).map Char.toLower
  match String.ofList extension with
  | "toml" => .ok .toml
  | "json" => .ok .json
  | "yaml" | "yml" => .ok .yaml
  | "" => .error (.unsupportedFormat path)
  | other => .error (.unsupportedFormat other)

end SettingsFormat

namespace Settings

/-- The settings of a text in a format, not validated. -/
def read? : SettingsFormat → String → Option Settings
  | .toml, text => ofToml? text
  | .json, text => ofJson? text
  | .yaml, text => ofYaml? text

/-- The settings of a text in a format. -/
def ofText (format : SettingsFormat) (text : String) : Except SettingsError Settings :=
  match read? format text with
  | some settings => settings.validate
  | none => .error (.malformed format)

/-- The settings of the file at a path. -/
def load {Effect : Type → Type} [Monad Effect] (readFile : String → Effect (Option String))
    (path : String) : Effect (Except SettingsError Settings) :=
  match SettingsFormat.ofPath path with
  | .error error => return .error error
  | .ok format => do
    match ← readFile path with
    | none => return .error (.unreadable path)
    | some text => return ofText format text

end Settings

end Stencil
