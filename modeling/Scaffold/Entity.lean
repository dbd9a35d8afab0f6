import Scaffold.Naming

/-!
# Entities

The subject of a generation. `Entity.named` derives every identifier once, so that all files of a
module refer to the same names; the HTTP routes are spelt from the plural.
-/

set_option autoImplicit false

namespace Scaffold

/-- The subject of a generation and the identifiers derived from its name. -/
structure Entity where
  /-- The name as it was given. -/
  raw : String
  /-- The lower-cased name, used for directories, file names and packages. -/
  module : String
  /-- The plural of `module`, used for tables and cache keys. -/
  modulePlural : String
  singular : Ident
  plural : Ident
  deriving DecidableEq, Repr

namespace Entity

def named (name : String) : Entity :=
  let module := Text.lower name
  let modulePlural := Naming.pluralize module
  { raw := name, module, modulePlural
    singular := .of module, plural := .of modulePlural }

/-- The name of the entity's type. -/
def pascal (e : Entity) : String := e.singular.pascal

/-- The name of a variable that holds one entity. -/
def camel (e : Entity) : String := e.singular.camel

/-! ## Routes -/

/-- The last part of the collection's path: the plural in kebab case. -/
def routeSegment (e : Entity) : String := e.plural.kebab

/-- The path of the collection. -/
def collectionPath (e : Entity) : String := "/" ++ e.routeSegment

/-- The path of one item, its identifier spelt as `placeholder`. -/
def itemPath (e : Entity) (placeholder : String) : String :=
  e.collectionPath ++ "/" ++ placeholder

end Entity

end Scaffold
