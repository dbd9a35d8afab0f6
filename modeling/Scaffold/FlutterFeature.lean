import Scaffold.FlutterFeature.Operations

/-!
# Flutter features

The files of a feature folder for a Flutter application, in the order in which they are written.
-/

set_option autoImplicit false

namespace Scaffold.FlutterFeature

/-- The kinds of the generated files. -/
def kinds : List ArtifactKind := [.model, .repository, .state, .view]

def artifacts (p : Pagination) (b : Blueprint) : ArtifactSet :=
  [model b, repository p b, providers b, screen b]

end Scaffold.FlutterFeature
