import Scaffold.Text.Case

/-!
# Identifier transforms

Names are cut into segments at `-` and `_` only, so `UserProfile` is a single segment. The four
identifier styles and the plural are functions on texts; an `Ident` holds the four styles of one
name.
-/

set_option autoImplicit false

namespace Scaffold.Naming

open Text

/-! ## Segments -/

def isSeparator (c : Char) : Bool := c = '-' || c = '_'

/-- The non-empty pieces between separators. -/
def segments (s : List Char) : List (List Char) :=
  (s.splitOnP isSeparator).filter (!·.isEmpty)

/-- Upper-cases the first character and lower-cases the others, each on its own. -/
def capitalizeChars : List Char → List Char
  | [] => []
  | c :: rest => upperChar c ++ rest.flatMap lowerChar

/-- Writes `new` for every `old`. -/
def exchange (old new : Char) (s : List Char) : List Char :=
  s.map fun c => if c = old then new else c

/-! ## Styles -/

def pascalChars (s : List Char) : List Char :=
  (segments s).flatMap capitalizeChars

def camelChars (s : List Char) : List Char :=
  match segments s with
  | [] => []
  | first :: rest => lowerChars first ++ rest.flatMap capitalizeChars

def snakeChars (s : List Char) : List Char :=
  exchange '-' '_' (lowerChars s)

def kebabChars (s : List Char) : List Char :=
  exchange '_' '-' (lowerChars s)

/-- Upper-cases the first character and lower-cases the others: `hELLO` gives `Hello`. -/
def capitalize (s : String) : String := .ofList (capitalizeChars s.toList)

/-- The style of type names: `order_item` gives `OrderItem`. -/
def pascal (s : String) : String := .ofList (pascalChars s.toList)

/-- The style of variables: `order-item` gives `orderItem`. -/
def camel (s : String) : String := .ofList (camelChars s.toList)

/-- Lower case with `_` for every `-`. -/
def snake (s : String) : String := .ofList (snakeChars s.toList)

/-- Lower case with `-` for every `_`. -/
def kebab (s : String) : String := .ofList (kebabChars s.toList)

/-! ## Plural -/

/-- The endings after which a plural takes `es`. -/
def sibilants : List (List Char) := [['s'], ['x'], ['c', 'h'], ['s', 'h']]

/-- The plural by suffix rules: a final `y` becomes `ies`, a sibilant gains `es`, all else `s`. -/
def pluralChars (s : List Char) : List Char :=
  if s.getLast? = some 'y' then s.dropLast ++ ['i', 'e', 's']
  else if sibilants.any (·.isSuffixOf s) then s ++ ['e', 's']
  else s ++ ['s']

/-- The plural by suffix rules: a final `y` becomes `ies`, a sibilant gains `es`, all else `s`. -/
def pluralize (s : String) : String := .ofList (pluralChars s.toList)

end Scaffold.Naming

namespace Scaffold

/-- One name in the four identifier styles. -/
structure Ident where
  pascal : String
  camel : String
  snake : String
  kebab : String
  deriving DecidableEq, Repr

/-- The styles of `name`. -/
def Ident.of (name : String) : Ident where
  pascal := Naming.pascal name
  camel := Naming.camel name
  snake := Naming.snake name
  kebab := Naming.kebab name

end Scaffold
