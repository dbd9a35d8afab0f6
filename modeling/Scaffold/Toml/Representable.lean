import Scaffold.Toml.Scalar

/-!
# Representable documents

A literal may denote no number, and a table may be mistaken for a date. A value is representable if
nothing of that kind is in it.
-/

set_option autoImplicit false

namespace Scaffold.Toml

/-- The key under which a date or a time is offered where a table is expected. A table that has it
as its least key stands for a date. -/
def datetimeKey : String := "$__toml_private_datetime"

/-- The value under `datetimeKey`, if that is the least key. -/
def datetimeEntry? (entries : List (String × Value)) : Option Value :=
  if entries.all fun (key, _) => datetimeKey ≤ key then entries.lookup datetimeKey else none

mutual

def Value.representable : Value → Bool
  | .unrepresentable => false
  | .array items => representableItems items
  | .table entries => match datetimeEntry? entries with
    | some (.string text) => isDatetime text.toList
    | some _ => false
    | none => representable entries
  | .string _ | .integer _ | .float _ | .boolean _ | .datetime _ => true

def representableItems : List Value → Bool
  | [] => true
  | v :: rest => v.representable && representableItems rest

/-- The values of all entries are representable. -/
def representable : List (String × Value) → Bool
  | [] => true
  | (_, v) :: rest => v.representable && representable rest

end

end Scaffold.Toml
