import Scaffold.Entity
import Scaffold.Field

/-!
# Blueprints

Everything that the files of one generation may depend on.
-/

set_option autoImplicit false

namespace Scaffold

/-- Toggles that add whole files to a generation. -/
structure Options where
  /-- Also generate the validator chain of a Go module. -/
  validators : Bool := false
  deriving DecidableEq, Repr

/-- The names of the toggles that are on. -/
def Options.enabled (o : Options) : List String :=
  if o.validators then ["validators"] else []

/-- A toggle that a stack understands. -/
structure OptionInfo where
  name : String
  description : String
  deriving DecidableEq, Repr

/-- What the files of one generation are made from. -/
structure Blueprint where
  entity : Entity
  fields : List Field
  /-- The project's name in references across files, such as the path of a Go module. -/
  project : String := ""
  options : Options := {}
  deriving DecidableEq, Repr

end Scaffold
