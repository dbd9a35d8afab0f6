import Scaffold.LaravelModule.Operations

/-!
# Laravel modules

The files of a module for a Laravel application, in the order in which they are written.
-/

set_option autoImplicit false

namespace Scaffold.LaravelModule

/-- The kinds of the generated files. -/
def kinds : List ArtifactKind := [.model, .migration, .controller, .request, .resource, .useCase]

def artifacts (p : Pagination) (b : Blueprint) : ArtifactSet :=
  [model b, migration b, controller p b, request b, resource b] ++
  Action.all.map fun a => useCase a b

end Scaffold.LaravelModule
