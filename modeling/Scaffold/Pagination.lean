/-!
# Pagination

The page arithmetic of list endpoints, on 64-bit words. Every operation whose exact result does not
fit into a word is an error of its own, named by `ArithmeticError`.
-/

set_option autoImplicit false

namespace Scaffold

/-- Why a computation on words has no result. -/
inductive ArithmeticError where
  | addOverflow
  | subtractOverflow
  | multiplyOverflow
  | divideByZero
  | divideOverflow
  deriving DecidableEq, Repr

def ArithmeticError.message : ArithmeticError → String
  | addOverflow => "attempt to add with overflow"
  | subtractOverflow => "attempt to subtract with overflow"
  | multiplyOverflow => "attempt to multiply with overflow"
  | divideByZero => "attempt to divide by zero"
  | divideOverflow => "attempt to divide with overflow"

/-- The word equal to `n`; `overflow` if there is none. -/
def narrow (overflow : ArithmeticError) (n : Int) : Except ArithmeticError Int64 :=
  if Int64.minValue.toInt ≤ n ∧ n ≤ Int64.maxValue.toInt then .ok (.ofInt n) else .error overflow

/-- The defaults and the limit of a list endpoint. -/
structure Pagination where
  /-- The page shown for a page number below 1. -/
  defaultPage : Int64 := 1
  /-- The page size used for a size below 1. -/
  defaultPerPage : Int64 := 20
  /-- The largest page size that a request may ask for. -/
  maxPerPage : Int64 := 100
  deriving DecidableEq

namespace Pagination

def resolvePage (p : Pagination) (page : Int64) : Int64 :=
  if page < 1 then p.defaultPage else page

def resolvePerPage (p : Pagination) (perPage : Int64) : Int64 :=
  if perPage < 1 then p.defaultPerPage else perPage

/-- The number of pages that show `total` rows: the quotient, plus one for a partial last page. -/
def totalPages (p : Pagination) (total perPage : Int64) : Except ArithmeticError Int64 := do
  let size := p.resolvePerPage perPage
  if size = 0 then throw .divideByZero
  let pages ← narrow .divideOverflow (total.toInt.tdiv size.toInt)
  if 0 < total.toInt.tmod size.toInt then narrow .addOverflow (pages.toInt + 1) else pure pages

/-- The number of rows before `page`. -/
def offset (p : Pagination) (page perPage : Int64) : Except ArithmeticError Int64 := do
  let before ← narrow .subtractOverflow ((p.resolvePage page).toInt - 1)
  narrow .multiplyOverflow (before.toInt * (p.resolvePerPage perPage).toInt)

end Pagination

end Scaffold
