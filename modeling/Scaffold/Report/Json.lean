import Scaffold.Text.Decimal

/-!
# JSON text

Report data as JSON values whose members keep their order, and their text with two blanks for each
level of nesting.
-/

set_option autoImplicit false

namespace Scaffold

/-- A JSON value of a report. -/
inductive Json where
  | string (s : String)
  | number (n : Nat)
  | array (items : List Json)
  | object (members : List (String × Json))

namespace Json

/-! ## Strings -/

/-- The character as it stands in a string literal. Only quotes, backslashes and control characters
below the blank are escaped. -/
def escape (c : Char) : String :=
  if c = '"' then "\\\""
  else if c = '\\' then "\\\\"
  else if c = '\n' then "\\n"
  else if c = '\r' then "\\r"
  else if c = '\t' then "\\t"
  else if c = '\x08' then "\\b"
  else if c = '\x0c' then "\\f"
  else if c.toNat < 0x20 then
    "\\u00" ++ .ofList [Nat.digitChar (c.toNat / 16), Nat.digitChar (c.toNat % 16)]
  else c.toString

def literal (s : String) : String :=
  "\"" ++ String.join (s.toList.map escape) ++ "\""

/-! ## Values -/

/-- Starts a line at a level of nesting. -/
def newline (level : Nat) : String := "\n" ++ String.join (List.replicate level "  ")

/-- Items on lines of their own between two brackets, which touch if there are no items. -/
def bracketed (opening closing : String) (level : Nat) (items : List String) : String :=
  if items.isEmpty then opening ++ closing
  else
    opening ++ newline (level + 1) ++
      String.intercalate ("," ++ newline (level + 1)) items ++ newline level ++ closing

mutual

/-- The text of a value that stands at a level of nesting. -/
def pretty (level : Nat) : Json → String
  | .string s => literal s
  | .number n => Text.natDigits n
  | .array items => bracketed "[" "]" level (prettyItems (level + 1) items)
  | .object members => bracketed "\x7b" "\x7d" level (prettyMembers (level + 1) members)

def prettyItems (level : Nat) : List Json → List String
  | [] => []
  | item :: rest => pretty level item :: prettyItems level rest

def prettyMembers (level : Nat) : List (String × Json) → List String
  | [] => []
  | (key, value) :: rest =>
    (literal key ++ ": " ++ pretty level value) :: prettyMembers level rest

end

def text (j : Json) : String := pretty 0 j

end Json

end Scaffold
