import Scaffold.Number.Binary64

/-!
# TOML values

A document is a table. Integers are those of signed 64-bit words, and floating point numbers are
rounded to the 64-bit format; a number literal outside of both is kept as `unrepresentable`, since
it is a fault only where a number is wanted of it.
-/

set_option autoImplicit false

namespace Scaffold.Toml

/-- A floating point number. -/
inductive FloatValue where
  | nan
  | infinite (negative : Bool)
  | finite (negative : Bool) (magnitude : Binary64)
  deriving DecidableEq, Repr

inductive Value where
  | string (s : String)
  | integer (n : Int)
  | float (f : FloatValue)
  /-- A number literal that denotes no integer or floating point number. -/
  | unrepresentable
  | boolean (b : Bool)
  /-- A date, a time or both, as written. -/
  | datetime (text : String)
  | array (items : List Value)
  | table (entries : List (String × Value))

/-- Fits into a signed 64-bit word. -/
def fitsWord (n : Int) : Bool := Int64.minValue.toInt ≤ n && n ≤ Int64.maxValue.toInt

/-- The value of a literal that denotes the integer `n`. -/
def Value.ofInt (n : Int) : Value := if fitsWord n then .integer n else .unrepresentable

/-- The value of a literal that denotes the decimal `d` or its negative. -/
def Value.ofDecimal (negative : Bool) (d : Decimal) : Value :=
  match Binary64.ofDecimal? d with
  | some magnitude => .float (.finite negative magnitude)
  | none => .unrepresentable

/-- The keys of a document and their values, in the order of the document. -/
abbrev Document := List (String × Value)

end Scaffold.Toml
