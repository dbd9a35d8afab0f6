/-!
# Type tables

Tables from a field type to a target spelling. A look-up never fails: a type that the table does
not know gets the fallback, so that there is always something to write.
-/

set_option autoImplicit false

namespace Scaffold

structure TypeTable where
  /-- What the table maps to. -/
  label : String
  entries : List (String × String)
  fallback : String

namespace TypeTable

/-- The target of `type`, if the table knows it. -/
def find? (t : TypeTable) (type : String) : Option String :=
  t.entries.lookup type

/-- The target of `type`, or the fallback. -/
def lookup (t : TypeTable) (type : String) : String :=
  (t.find? type).getD t.fallback

def contains (t : TypeTable) (type : String) : Bool :=
  (t.find? type).isSome

/-! ## The tables in use -/

/-- GORM column types of Go types. -/
def gormColumns : TypeTable where
  label := "gorm column type"
  entries := [
    ("string", "varchar(255)"), ("*string", "varchar(255)"), ("int", "int"), ("int32", "int"),
    ("int64", "bigint"), ("*int", "int"), ("*int64", "bigint"), ("float32", "float"),
    ("float64", "double"), ("bool", "boolean"), ("*bool", "boolean"), ("time.Time", "datetime")]
  fallback := "varchar(255)"

/-- Column methods of the schema builder. -/
def migrationColumns : TypeTable where
  label := "migration column"
  entries := [
    ("string", "string"), ("text", "text"), ("integer", "integer"), ("bigInteger", "bigInteger"),
    ("float", "float"), ("double", "double"), ("decimal", "decimal"), ("boolean", "boolean"),
    ("date", "date"), ("datetime", "dateTime"), ("timestamp", "timestamp"), ("json", "json")]
  fallback := "string"

/-- Eloquent attribute casts. A type outside the table is not cast. -/
def modelCasts : TypeTable where
  label := "model cast"
  entries := [
    ("boolean", "boolean"), ("integer", "integer"), ("float", "float"), ("array", "array"),
    ("json", "json")]
  fallback := "string"

/-- Values of `<input type>` for TypeScript types. -/
def formInputs : TypeTable where
  label := "form input type"
  entries := [("string", "text"), ("number", "number"), ("boolean", "checkbox"), ("Date", "date")]
  fallback := "text"

/-- The suffix that turns a Dart value into its JSON form; other types are encoded as they are. -/
def jsonEncoders : TypeTable where
  label := "json encoder"
  entries := [
    ("DateTime", ".toIso8601String()"), ("Uri", ".toString()"), ("Duration", ".inMilliseconds")]
  fallback := ""

end TypeTable

end Scaffold
