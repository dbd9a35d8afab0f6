import Scaffold.Text.Blank
import Scaffold.Text.Case

/-!
# Target stacks

The technology combinations a module can be generated for. A stack is read from its name or an
alias, whatever the letter case and the blanks around it.
-/

set_option autoImplicit false

namespace Scaffold

inductive Stack where
  | go
  | laravel
  | react
  | flutter
  deriving DecidableEq, Repr

namespace Stack

/-- Every stack, in the order of listings. -/
def all : List Stack := [go, laravel, react, flutter]

def name : Stack → String
  | go => "go"
  | laravel => "laravel"
  | react => "react"
  | flutter => "flutter"

/-- The technologies of the stack, in one line. -/
def description : Stack → String
  | go => "Go + Gin + GORM (clean architecture)"
  | laravel => "Laravel + PHP (domain + use case)"
  | react => "React + TypeScript + Vite (MVVM)"
  | flutter => "Flutter + Dart + Riverpod (feature-based)"

/-- The place of the stack in `all`. -/
def position (s : Stack) : Nat := all.idxOf s

/-- The stack with exactly this name. -/
def ofName? (name : String) : Option Stack :=
  all.find? (·.name = name)

/-- The lower-case spellings of each stack. -/
def spellings : List (String × Stack) := [
  ("go", go), ("golang", go), ("laravel", laravel), ("php", laravel), ("react", react),
  ("flutter", flutter), ("dart", flutter)]

/-- Reads a name or an alias, ignoring letter case and surrounding blanks. -/
def parse? (s : String) : Option Stack :=
  spellings.lookup (Text.lower (Text.trim s))

end Stack

/-- A text that names no stack. -/
structure UnknownStack where
  text : String
  deriving DecidableEq, Repr

def UnknownStack.message (e : UnknownStack) : String :=
  "unknown stack '" ++ e.text ++ "', expected one of: " ++
    String.intercalate ", " (Stack.all.map Stack.name)

/-- Reads a name or an alias; the error keeps the text as it was given. -/
def Stack.parse (s : String) : Except UnknownStack Stack :=
  match parse? s with
  | some stack => .ok stack
  | none => .error ⟨s⟩

end Scaffold
