/-!
# Indentation
-/

set_option autoImplicit false

namespace Scaffold

/-- How generated code is indented. -/
inductive Indent where
  | spaces (width : Nat)
  | tab
  deriving DecidableEq, Repr

namespace Indent

/-- The text of one level. A width other than 2, 4 and 8 counts as 4. -/
def unit : Indent → String
  | spaces 2 => "  "
  | spaces 8 => "        "
  | spaces _ => "    "
  | tab => "\t"

/-! ## The customs of the generated languages -/

def go : Indent := tab
def php : Indent := spaces 4
def typescript : Indent := spaces 2
def dart : Indent := spaces 2

/-- The indentation of code in no particular language. -/
def standard : Indent := php

end Indent

end Scaffold
