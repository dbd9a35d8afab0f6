import Scaffold.FlutterFeature
import Scaffold.GoModule
import Scaffold.LaravelModule
import Scaffold.ReactFeature

/-!
# Generators

A generator turns blueprints into the files of one stack. All but React's carry the pagination
defaults that they write into list endpoints.
-/

set_option autoImplicit false

namespace Scaffold

inductive Generator where
  | go (pagination : Pagination)
  | laravel (pagination : Pagination)
  | react
  | flutter (pagination : Pagination)
  deriving DecidableEq

namespace Generator

def stack : Generator → Stack
  | go _ => .go
  | laravel _ => .laravel
  | react => .react
  | flutter _ => .flutter

/-- The generator of a stack. -/
def ofStack (p : Pagination) : Stack → Generator
  | .go => go p
  | .laravel => laravel p
  | .react => react
  | .flutter => flutter p

/-- The kinds of the files that are always generated, in the order of their first file. -/
def kinds : Generator → List ArtifactKind
  | go _ => GoModule.kinds
  | laravel _ => LaravelModule.kinds
  | react => ReactFeature.kinds
  | flutter _ => FlutterFeature.kinds

/-- The toggles that the generator understands. -/
def optionInfos : Generator → List OptionInfo
  | go _ => GoModule.optionInfos
  | _ => []

/-- The files made from a blueprint. -/
def artifacts (g : Generator) (b : Blueprint) : ArtifactSet :=
  match g with
  | go p => GoModule.artifacts p b
  | laravel p => LaravelModule.artifacts p b
  | react => ReactFeature.artifacts b
  | flutter p => FlutterFeature.artifacts p b

end Generator

end Scaffold
