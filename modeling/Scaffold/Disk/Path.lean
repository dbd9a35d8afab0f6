/-!
# Paths

A path is a text; its parts are the pieces between slashes. `.` and empty parts are kept as they
are written, and `chain` lists the directories that a path passes through.
-/

set_option autoImplicit false

namespace Scaffold.Path

/-- The pieces between slashes. An absolute path starts with an empty one. -/
def parts (path : String) : List String :=
  (path.toList.splitOn '/').map .ofList

/-- The path with these parts. -/
def ofParts (parts : List String) : String := String.intercalate "/" parts

def isAbsolute (path : String) : Bool := path.toList.head? = some '/'

/-- `path` below `base`. An absolute path takes the place of the base. -/
def join (base path : String) : String :=
  if isAbsolute path then path
  else if base.isEmpty || base.toList.getLast? = some '/' then base ++ path
  else base ++ "/" ++ path

/-- An empty part or `.`, which names the directory that it stands in. -/
def isIdle (part : String) : Bool := part = "" || part = "."

/-- The path with the parts `reversed`, read backwards, and those of its ancestors, deepest first.
An idle part ends none of them, unless it is the first part. A relative path ends in the empty one,
which stands for the working directory. -/
def chainOf : List String → List String
  | [] => [""]
  | [""] => ["/"]
  | ["."] => [".", ""]
  | part :: rest =>
    if isIdle part then chainOf rest else ofParts (part :: rest).reverse :: chainOf rest

/-- The path, without idle parts at its end, and its ancestors, deepest first. -/
def chain (path : String) : List String := chainOf (parts path).reverse

end Scaffold.Path
