import Scaffold.Text.Blank

/-!
# Fields

The declared attributes of an entity and the specification text that lists them: tokens
`name[:type][?]` between commas. Reading is permissive; every token with a character that is not
blank gives a field.
-/

set_option autoImplicit false

namespace Scaffold

/-- A declared attribute of an entity. -/
structure Field where
  name : String
  /-- The type as written, in the vocabulary of the target stack. -/
  type : String
  required : Bool := true
  deriving DecidableEq, Repr

namespace Field

open Text

/-- The text before the first colon and, if there is one, the text after it. -/
def splitColon (token : List Char) : List Char × Option (List Char) :=
  (token.takeWhile (· ≠ ':'),
    match token.dropWhile (· ≠ ':') with
    | [] => none
    | _ :: type => some type)

/-- Reads a trimmed token. All question marks at its end belong to the optional marker. -/
def ofToken (defaultType : String) (token : List Char) : Field :=
  let (name, type) := splitColon (dropEndWhile (· = '?') token)
  { name := .ofList (trimChars name)
    type := type.elim defaultType fun type => .ofList (trimChars type)
    required := token.getLast? ≠ some '?' }

/-- The tokens of a specification, trimmed, without the blank ones. -/
def tokens (spec : List Char) : List (List Char) :=
  ((spec.splitOn ',').map trimChars).filter (!·.isEmpty)

/-- Reads a specification; a field without a type gets `defaultType`. -/
def parseSpec (defaultType : String) (spec : String) : List Field :=
  (tokens spec.toList).map (ofToken defaultType)

end Field

end Scaffold
