import Scaffold.Code.Program

/-!
# Go source files

The parts of a Go file that other files or declarations refer to: its imports, the members of its
struct types and the names that it declares. `SourceFile.program` writes a file.
-/

set_option autoImplicit false

namespace Scaffold.GoModule

open Code

/-- `s` and the blanks up to the next column of a table; at least one. -/
def column (width : Nat) (s : String) : String :=
  s ++ .ofList (List.replicate (max 1 (width - s.length)) ' ')

/-- A member of a struct type. Hand-aligned members give the widths of their columns. -/
structure Member where
  name : String
  type : String
  tag : String
  nameWidth : Nat := 0
  typeWidth : Nat := 0
  deriving DecidableEq, Repr

def Member.text (m : Member) : String :=
  column m.nameWidth m.name ++ column m.typeWidth m.type ++ "`" ++ m.tag ++ "`"

/-- The tag that names a member in JSON. -/
def jsonTag (key : String) : String := "json:" ++ quoted key

/-- A declaration at the top level of a file. -/
inductive Decl where
  | struct (name : String) (members : List Member)
  /-- A struct or interface type whose lines refer to no field. -/
  | shape (name : String) (form : String) (lines : List String)
  /-- A function; the signature holds the parameters and the result. -/
  | func (name : String) (signature : String) (body : Program)
  /-- A method on a pointer to a type. -/
  | method (receiver : String) (type : String) (name : String) (signature : String)
      (body : Program)

namespace Decl

/-- The name that the declaration adds to its package. A method adds none. -/
def declared? : Decl → Option String
  | struct name .. | shape name .. | func name .. => some name
  | method .. => none

def op : Decl → Op
  | struct name members =>
    .braces ("type " ++ name ++ " struct ") (members.map fun m => .line m.text)
  | shape name form lines => .braces ("type " ++ name ++ " " ++ form ++ " ") (lines.map .line)
  | func name signature body => .braces ("func " ++ name ++ signature ++ " ") body
  | method receiver type name signature body =>
    .braces ("func (" ++ receiver ++ " *" ++ type ++ ") " ++ name ++ signature ++ " ") body

end Decl

/-- The imports of a file. -/
inductive Imports where
  | single (path : String)
  /-- Import paths in groups. -/
  | grouped (groups : List (List String))

namespace Imports

def paths : Imports → List String
  | single path => [path]
  | grouped groups => groups.flatten

def program : Imports → Program
  | single path => [.line ("import " ++ quoted path)]
  | grouped groups =>
    [.line "import (",
      .indented (Program.separated (groups.map (·.map fun path => .line (quoted path)))),
      .line ")"]

end Imports

/-- A Go file. -/
structure SourceFile where
  package : String
  imports : Imports
  decls : List Decl

namespace SourceFile

/-- The names that the file adds to its package. -/
def declared (f : SourceFile) : List String := f.decls.filterMap Decl.declared?

def program (f : SourceFile) : Program :=
  Program.separated
    ([.line ("package " ++ f.package)] :: f.imports.program :: f.decls.map fun d => [d.op])

def render (f : SourceFile) : String := f.program.render .go

end SourceFile

/-! ## Statements -/

/-- An `if` statement. -/
def ifThen (condition : String) (body : Program) : Op :=
  .braces ("if " ++ condition ++ " ") body

/-- Evaluates a call into `err` and handles a failure. -/
def ifErr (call : String) (body : Program) : Op :=
  ifThen ("err := " ++ call ++ "; err != nil") body

end Scaffold.GoModule
