import Scaffold.Field
import Scaffold.Stack
import Scaffold.TypeTable

/-!
# The type vocabulary of a stack

How each stack spells its string type, a type that may be absent, and the representation of a
field type in storage or on the wire.
-/

set_option autoImplicit false

namespace Scaffold

namespace Stack

/-- The plain string type, which is also the type of a field declared without one. -/
def stringType : Stack → String
  | flutter => "String"
  | _ => "string"

/-- The table of storage or wire representations. -/
def typeTable : Stack → TypeTable
  | go => .gormColumns
  | laravel => .migrationColumns
  | react => .formInputs
  | flutter => .jsonEncoders

/-- The spelling of a type whose value may be absent; such a spelling is left as it is. -/
def nullable (stack : Stack) (type : String) : String :=
  match stack with
  | go => if type.toList.head? = some '*' then type else "*" ++ type
  | laravel => if type.toList.head? = some '?' then type else "?" ++ type
  | react => if " | null".toList.isSuffixOf type.toList then type else type ++ " | null"
  | flutter => if type.toList.getLast? = some '?' then type else type ++ "?"

/-- Reads a specification in the stack's vocabulary. -/
def parseFields (stack : Stack) (spec : String) : List Field :=
  Field.parseSpec stack.stringType spec

end Stack

/-! ## Response shapes -/

/-- The identifier that the generator manages; it is never declared as a field. -/
def idField : String := "id"

/-- The creation time that the generator manages; it is never declared as a field. -/
def createdAtField : String := "created_at"

/-- The type of the field in a response: nullable when the field is optional. -/
def Field.responseType (stack : Stack) (f : Field) : String :=
  if f.required then f.type else stack.nullable f.type

end Scaffold
