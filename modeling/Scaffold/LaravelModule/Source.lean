import Scaffold.Code.Program

/-!
# PHP source files

A file with one class: its namespace, the classes that it uses, and the class itself.
-/

set_option autoImplicit false

namespace Scaffold.LaravelModule

open Code

/-- A PHP file with one class. -/
structure SourceFile where
  /-- The namespace; an anonymous class needs none. -/
  phpNamespace? : Option String
  /-- The full names of the classes used. -/
  uses : List String
  /-- The line before the class body. -/
  header : String
  body : Program
  /-- What follows the closing brace. -/
  tail : String := ""

namespace SourceFile

def program (f : SourceFile) : Program :=
  [.line "<?php", .blank] ++
  (match f.phpNamespace? with
    | some ns => [.line ("namespace " ++ ns ++ ";"), .blank]
    | none => []) ++
  f.uses.map (fun name => .line ("use " ++ name ++ ";")) ++
  [.blank, .line f.header, .braces "" f.body f.tail]

def render (f : SourceFile) : String := f.program.render .php

end SourceFile

/-- A string literal. -/
def literal (s : String) : String := "'" ++ s ++ "'"

/-- The items of an array literal. -/
def commaList (items : List String) : String := String.intercalate ", " items

/-- A signature and, on lines of their own, the braces around its body. -/
def function (signature : String) (body : Program) : Program :=
  [.line signature, .braces "" body]

/-- A public method. -/
def method (signature : String) (body : Program) : Program :=
  function ("public function " ++ signature) body

end Scaffold.LaravelModule
