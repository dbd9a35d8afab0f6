/-!
# Decimal numerals
-/

set_option autoImplicit false

namespace Scaffold.Text

/-- The decimal digits of `n`, without leading zeros. -/
def natDigits (n : Nat) : String := .ofList (Nat.toDigits 10 n)

/-- The decimal digits of `n`, after a minus sign if it is negative. -/
def intDigits (n : Int) : String :=
  (if n < 0 then "-" else "") ++ natDigits n.natAbs

end Scaffold.Text
