import Scaffold.Text.Decimal

/-!
# Binary floating point numbers

The positive finite numbers of the 64-bit format, as exact values. `nearest?` rounds a quotient of
natural numbers, `shortest` gives the decimal with the fewest digits that rounds to a number, and
`positional` spells a decimal without an exponent.
-/

set_option autoImplicit false

namespace Scaffold

/-- The number `significand · 2 ^ exponent`. -/
structure Binary64 where
  significand : Nat
  exponent : Int
  deriving DecidableEq, Repr

/-- The number `digits · 10 ^ exponent`. -/
structure Decimal where
  digits : Nat
  exponent : Int
  deriving DecidableEq, Repr

/-- The quotient of two natural numbers. -/
structure Ratio where
  num : Nat
  den : Nat

namespace Ratio

/-- The number `n · base ^ e`. -/
def scaled (n base : Nat) (e : Int) : Ratio :=
  if 0 ≤ e then ⟨n * base.pow e.toNat, 1⟩ else ⟨n, base.pow (-e).toNat⟩

def mul (a b : Ratio) : Ratio := ⟨a.num * b.num, a.den * b.den⟩

def le (a b : Ratio) : Bool := a.num * b.den ≤ b.num * a.den

def lt (a b : Ratio) : Bool := a.num * b.den < b.num * a.den

/-- The greatest natural number that is not above `a`. -/
def floor (a : Ratio) : Nat := a.num / a.den

/-- The nearest natural number; of two equally near ones the even one. -/
def round (a : Ratio) : Nat :=
  let below := a.floor
  let twice := 2 * (a.num % a.den)
  if twice < a.den || twice = a.den && below % 2 = 0 then below else below + 1

/-- The distance of two numbers. -/
def dist (a b : Ratio) : Ratio :=
  ⟨(a.num * b.den - b.num * a.den) + (b.num * a.den - a.num * b.den), a.den * b.den⟩

/-- The greatest `e` with `base ^ e ≤ a`, searched from an estimate that is at most `fuel` off. -/
def logFrom (base : Nat) (a : Ratio) : Nat → Int → Int
  | 0, e => e
  | fuel + 1, e =>
    if a.lt (scaled 1 base e) then logFrom base a fuel (e - 1)
    else if le (scaled 1 base (e + 1)) a then logFrom base a fuel (e + 1)
    else e

end Ratio

namespace Binary64

/-- The least exponent. -/
def minExponent : Int := -1074

/-- The greatest exponent of a finite number. -/
def maxExponent : Int := 971

/-- The number of bits of a significand. -/
def precision : Nat := 53

/-- The nearest number to a positive quotient, of two the one with an even significand; nothing if
it lies beyond the finite numbers. -/
def nearest? (a : Ratio) : Option Binary64 :=
  let magnitude := Ratio.logFrom 2 a 3 ((Nat.log2 a.num : Int) - Nat.log2 a.den)
  let exponent := max (magnitude - (precision - 1)) minExponent
  let significand := (a.mul (.scaled 1 2 (-exponent))).round
  let x : Binary64 :=
    if significand = Nat.pow 2 precision then ⟨Nat.pow 2 (precision - 1), exponent + 1⟩
    else ⟨significand, exponent⟩
  if x.exponent ≤ maxExponent then some x else none

/-- The number of a decimal, without its sign; nothing if it lies beyond the finite numbers. -/
def ofDecimal? (d : Decimal) : Option Binary64 :=
  let size := (Nat.toDigits 10 d.digits).length + d.exponent
  if d.digits = 0 || size < -400 then some ⟨0, minExponent⟩
  else if 400 < size then none
  else nearest? (.scaled d.digits 10 d.exponent)

def toRatio (x : Binary64) : Ratio := .scaled x.significand 2 x.exponent

/-- The lower end of the numbers that round to `x`. -/
def lower (x : Binary64) : Ratio :=
  if x.significand = Nat.pow 2 (precision - 1) && minExponent < x.exponent then
    .scaled (4 * x.significand - 1) 2 (x.exponent - 2)
  else .scaled (2 * x.significand - 1) 2 (x.exponent - 1)

/-- The upper end of the numbers that round to `x`. -/
def upper (x : Binary64) : Ratio := .scaled (2 * x.significand + 1) 2 (x.exponent - 1)

/-- A number that rounds to `x`; the ends of the interval do if the significand is even. -/
def roundsTo (x : Binary64) (a : Ratio) : Bool :=
  if x.significand % 2 = 0 then x.lower.le a && a.le x.upper else x.lower.lt a && a.lt x.upper

/-- The nearest decimal to `x` with `count` digits that rounds to it, if there is one; of two
equally near ones the greater. -/
def candidate? (x : Binary64) (magnitude : Int) (count : Nat) : Option Decimal :=
  let exponent := magnitude - (count - 1)
  let below := (x.toRatio.mul (.scaled 1 10 (-exponent))).floor
  let value (n : Nat) := Ratio.scaled n 10 exponent
  let above : Decimal :=
    if below + 1 = Nat.pow 10 count then ⟨1, exponent + count⟩ else ⟨below + 1, exponent⟩
  match x.roundsTo (value below), x.roundsTo (value (below + 1)) with
  | false, false => none
  | true, false => some ⟨below, exponent⟩
  | false, true => some above
  | true, true =>
    if ((value below).dist x.toRatio).lt ((value (below + 1)).dist x.toRatio) then
      some ⟨below, exponent⟩
    else some above

/-- The decimal with the fewest digits that rounds to `x`. Seventeen digits are always enough. -/
def shortest (x : Binary64) : Decimal :=
  if x.significand = 0 then ⟨0, 0⟩
  else
    let magnitude := Ratio.logFrom 10 x.toRatio 700 0
    ((List.range 17).findSome? fun n => x.candidate? magnitude (n + 1)).getD ⟨0, 0⟩

end Binary64

namespace Decimal

/-- The digits of a decimal with a point among them, and at least one digit after the point. -/
def positional (d : Decimal) : String :=
  let digits := Nat.toDigits 10 d.digits
  if 0 ≤ d.exponent then
    .ofList (digits ++ List.replicate d.exponent.toNat '0') ++ ".0"
  else
    let places := (-d.exponent).toNat
    let padded := List.replicate (places + 1 - digits.length) '0' ++ digits
    .ofList (padded.take (padded.length - places)) ++ "." ++
      .ofList (padded.drop (padded.length - places))

end Decimal

end Scaffold
