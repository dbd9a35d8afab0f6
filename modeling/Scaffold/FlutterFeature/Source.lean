import Scaffold.Code.Program

/-!
# Dart source files

The parts of a Dart file that other files refer to, and the members of its classes.
-/

set_option autoImplicit false

namespace Scaffold.FlutterFeature

open Code

/-- A Dart file. -/
structure SourceFile where
  /-- The imports, of packages or relative to the file's directory. -/
  imports : List String
  /-- The generated parts of the library. -/
  parts : List String := []
  decls : List Program

namespace SourceFile

def program (f : SourceFile) : Program :=
  Program.separated
    ([f.imports.map fun target => .line ("import '" ++ target ++ "';")] ++
      (if f.parts.isEmpty then [] else
        [f.parts.map fun part => .line ("part '" ++ part ++ "';")]) ++
      f.decls)

def render (f : SourceFile) : String := f.program.render .dart

end SourceFile

/-- A named parameter of a constructor. -/
structure Param where
  name : String
  type : String
  required : Bool
  /-- The name in JSON, where it is another one. -/
  jsonKey? : Option String := none
  deriving DecidableEq, Repr

def Param.text (p : Param) : String :=
  (match p.jsonKey? with
    | some key => "@JsonKey(name: '" ++ key ++ "') "
    | none => "") ++
  (if p.required then "required " else "") ++ p.type ++ " " ++ p.name ++ ","

/-- A class. -/
def classDecl (header : String) (body : Program) : Program :=
  [.braces ("class " ++ header ++ " ") body]

/-- An immutable class that reads itself from JSON. -/
def freezedClass (name : String) (params : List Param) : Program :=
  [.line "@freezed"] ++
  classDecl (name ++ " with _$" ++ name)
    [.braces ("const factory " ++ name ++ "(") (params.map fun p => .line p.text)
       (") = _" ++ name ++ ";"),
     .blank,
     .line ("factory " ++ name ++ ".fromJson(Map<String, dynamic> json) => _$" ++ name ++
       "FromJson(json);")]

/-- An asynchronous method. -/
def asyncMethod (result name params : String) (body : Program) : Op :=
  .braces ("Future<" ++ result ++ "> " ++ name ++ "(" ++ params ++ ") async ") body

/-- A call whose arguments stand on lines of their own. -/
def call (header : String) (arguments : Program) (close : String) : Op :=
  .block (header ++ "(") arguments close

end Scaffold.FlutterFeature
