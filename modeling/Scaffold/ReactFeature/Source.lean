import Scaffold.Code.Program

/-!
# TypeScript source files

The parts of a TypeScript file that other files refer to: what it imports and from where, the
members of its interfaces and the names that it exports.
-/

set_option autoImplicit false

namespace Scaffold.ReactFeature

open Code

/-! ## Imports -/

/-- The named imports from one module. -/
structure Import where
  names : List String
  source : String
  /-- The imported names are types only. -/
  types : Bool := false
  /-- Each name stands on a line of its own. -/
  wrapped : Bool := false
  deriving DecidableEq, Repr

def Import.program (i : Import) : Program :=
  let opening := if i.types then "import type " else "import "
  let closing := " from '" ++ i.source ++ "';"
  if i.wrapped then
    [.braces opening (i.names.map fun name => .line (name ++ ",")) closing]
  else
    [.line (opening ++ braced (" " ++ String.intercalate ", " i.names ++ " ") ++ closing)]

/-! ## Declarations -/

/-- A member of an interface. -/
structure Member where
  name : String
  type : String
  optional : Bool := false
  deriving DecidableEq, Repr

def Member.text (m : Member) : String :=
  m.name ++ (if m.optional then "?" else "") ++ ": " ++ m.type ++ ";"

/-- A method of an exported object: its name, its parameters and the expression that it returns. -/
structure Method where
  name : String
  params : String
  result : String
  deriving DecidableEq, Repr

def Method.program (m : Method) : Program :=
  [.line (m.name ++ ": (" ++ m.params ++ ") =>"), .indented [.line (m.result ++ ",")]]

/-- A declaration at the top level of a file. -/
inductive Decl where
  | interface (name : String) (members : List Member)
  /-- A string constant that is not exported. -/
  | constant (name : String) (value : String)
  | object (name : String) (methods : List Method)
  | function (name : String) (params : String) (body : Program)

namespace Decl

/-- The name that the declaration exports. -/
def exported? : Decl → Option String
  | interface name _ | object name _ | function name .. => some name
  | constant .. => none

def program : Decl → Program
  | interface name members =>
    [.braces ("export interface " ++ name ++ " ") (members.map fun m => .line m.text)]
  | constant name value => [.line ("const " ++ name ++ " = '" ++ value ++ "';")]
  | object name methods =>
    [.braces ("export const " ++ name ++ " = ")
      (Program.separated (methods.map Method.program)) ";"]
  | function name params body =>
    [.braces ("export function " ++ name ++ "(" ++ params ++ ") ") body]

end Decl

/-! ## Files -/

/-- A TypeScript file with imports and declarations. -/
structure SourceFile where
  imports : List Import := []
  decls : List Decl

namespace SourceFile

/-- The names that the file exports. -/
def exported (f : SourceFile) : List String := f.decls.filterMap Decl.exported?

def program (f : SourceFile) : Program :=
  Program.separated
    ((if f.imports.isEmpty then [] else [f.imports.flatMap Import.program]) ++
      f.decls.map Decl.program)

def render (f : SourceFile) : String := f.program.render .typescript

end SourceFile

/-- A file that exports all that other files export. -/
def barrel (sources : List String) : Program :=
  sources.map fun source => .line ("export * from '" ++ source ++ "';")

/-! ## Markup -/

/-- An element with children; the attributes follow a blank. -/
def element (tag : String) (children : Program) (attributes : String := "") : Op :=
  .block ("<" ++ tag ++ attributes ++ ">") children ("</" ++ tag ++ ">")

/-- The markup that a component returns. -/
def returned (markup : Op) : Op := .block "return (" [markup] ");"

end Scaffold.ReactFeature
