import Scaffold.ReactFeature.Operations

/-!
# React features

The files of a feature folder for a React application, in the order in which they are written.
-/

set_option autoImplicit false

namespace Scaffold.ReactFeature

/-- The kinds of the generated files. -/
def kinds : List ArtifactKind := [.dto, .apiClient, .state, .view, .index]

def artifacts (b : Blueprint) : ArtifactSet :=
  [types b, api b, hooks b, list b, form b, index b]

end Scaffold.ReactFeature
