import Stencil.Text.Pieces
import Stencil.Text.Numeral

/-!
# Operator families

A node declares its operators as short tokens, at most one of each family.  A
token that its family does not know is refused when it is read, so evaluation
never meets one.
-/

namespace Stencil

/-- The families of operators. -/
inductive Family where
  | query
  | constraints
  | symbol
  | enumerate
  | inception
deriving DecidableEq

namespace Family

/-- The name of a family. -/
def name : Family → String
  | .query => "query"
  | .constraints => "constraints"
  | .symbol => "symbol"
  | .enumerate => "enumerate"
  | .inception => "inception"

end Family

/-- Why a token was refused. -/
inductive TokenError where
  | unknown (family : Family) (token : String)
  | invalidDepth (token : String)
deriving DecidableEq

namespace TokenError

/-- The wording of an error. -/
def message : TokenError → String
  | .unknown family token =>
    let name := family.name
    s!"Unknown {name} operator: '{token}'"
  | .invalidDepth token => s!"Invalid inception depth in '{token}'"

end TokenError

end Stencil
