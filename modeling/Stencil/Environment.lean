import Stencil.Function.Error
import Stencil.Path.Address
import Stencil.Registry
import Stencil.Settings

/-!
# Environments

An environment is what a pass of evaluation reads and never changes: the source
documents, the functions of pipes, the handlers of constraints, the settings
and the way in which paths are followed.
-/

namespace Stencil

/-- What a pass of evaluation reads. -/
structure Environment where
  /-- The source documents. -/
  sources : Registry Value := {}
  /-- The functions of pipes. -/
  functions : Registry PipeFunction := {}
  /-- The handlers of constraints. -/
  handlers : Registry Handler := {}
  /-- The settings. -/
  settings : Settings := {}
  /-- What a root-qualified path picks from a document. -/
  select : Value → String → Except PathError (List Value) := Path.select

namespace Environment

instance : Inhabited Environment := ⟨{}⟩

/-- The document of the origin source; null when there is none. -/
def origin (environment : Environment) : Value :=
  (environment.sources.get? environment.settings.originSource).getD .null

/-- The value of an argument of an operator. -/
def argument (environment : Environment) (text : String) : Value :=
  Value.ofArgument environment.settings.literalArguments text

end Environment

end Stencil
