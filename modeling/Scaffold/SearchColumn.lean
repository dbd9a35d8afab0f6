import Scaffold.Field

/-!
# The search column of list queries

A list query searches the first string field that is not a foreign key. Without one it searches
`name`, whether or not the entity has such a column.
-/

set_option autoImplicit false

namespace Scaffold

/-- The column searched when no field qualifies. -/
def searchFallback : String := "name"

/-- The ending of a foreign key's name. -/
def foreignKeySuffix : String := "_id"

def Field.isForeignKey (f : Field) : Bool :=
  foreignKeySuffix.toList.isSuffixOf f.name.toList

/-- The column that a list query searches. -/
def searchColumn (fields : List Field) (stringType : String) : String :=
  match fields.find? fun f => f.type = stringType && !f.isForeignKey with
  | some f => f.name
  | none => searchFallback

end Scaffold
