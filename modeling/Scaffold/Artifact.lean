/-!
# Artifacts

The generated files: a path below the output root, the role of the file in its module, and the
content.
-/

set_option autoImplicit false

namespace Scaffold

/-- The role of a generated file. -/
inductive ArtifactKind where
  | model
  | migration
  | dto
  | request
  | resource
  | useCase
  | controller
  | wiring
  | validator
  | apiClient
  | state
  | repository
  | view
  | index
  deriving DecidableEq, Repr

def ArtifactKind.name : ArtifactKind → String
  | model => "model"
  | migration => "migration"
  | dto => "dto"
  | request => "request"
  | resource => "resource"
  | useCase => "use-case"
  | controller => "controller"
  | wiring => "wiring"
  | validator => "validator"
  | apiClient => "api-client"
  | state => "state"
  | repository => "repository"
  | view => "view"
  | index => "index"

/-- A generated file. -/
structure Artifact where
  /-- The path below the output root, its components separated by `/`. -/
  path : String
  kind : ArtifactKind
  content : String
  deriving DecidableEq, Repr

/-- The files of a generation, in the order in which they are written. -/
abbrev ArtifactSet := List Artifact

namespace ArtifactSet

def paths (set : ArtifactSet) : List String := set.map (·.path)

/-- The first artifact at exactly this path. -/
def get? (set : ArtifactSet) (path : String) : Option Artifact :=
  set.find? (·.path = path)

end ArtifactSet

end Scaffold
