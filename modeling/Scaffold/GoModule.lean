import Scaffold.GoModule.Operations

/-!
# Go modules

The files of a module for a Go service on Gin and GORM, in the order in which they are written.
-/

set_option autoImplicit false

namespace Scaffold.GoModule

/-- The kinds of the files that are always generated. -/
def kinds : List ArtifactKind := [.model, .dto, .useCase, .controller, .wiring]

def optionInfos : List OptionInfo :=
  [⟨"validators", "Also emit a validator chain with an existence check"⟩]

def artifacts (p : Pagination) (b : Blueprint) : ArtifactSet :=
  [model b, dto p b, usecases p b, controllers p b, wiring b] ++
  if b.options.validators then [validator b] else []

end Scaffold.GoModule
