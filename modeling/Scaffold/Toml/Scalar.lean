import Scaffold.Toml.Value

/-!
# TOML scalars

The values that are written without quotes: booleans, numbers, dates and times. `scalar?` reads a
whole token as one of them.
-/

set_option autoImplicit false

namespace Scaffold.Toml

/-! ## Digits -/

def isHexDigit (c : Char) : Bool :=
  c.isDigit || ('a' ≤ c && c ≤ 'f') || ('A' ≤ c && c ≤ 'F')

/-- The value of a digit in any base up to 16. -/
def digitValue (c : Char) : Nat :=
  if c.isDigit then c.toNat - '0'.toNat
  else if 'a' ≤ c && c ≤ 'f' then c.toNat - 'a'.toNat + 10
  else c.toNat - 'A'.toNat + 10

/-- The number that digits write in a base. -/
def ofDigits (base : Nat) (digits : List Char) : Nat :=
  digits.foldl (fun n c => n * base + digitValue c) 0

/-- The digits of a run of digits and underscores; each underscore stands between two digits. -/
def runDigits? (isDigit : Char → Bool) (run : List Char) : Option (List Char) :=
  if run.all (fun c => isDigit c || c = '_') &&
      (run.splitOn '_').all (fun piece => !piece.isEmpty) then
    some (run.filter (· ≠ '_'))
  else none

/-! ## Integers -/

/-- The sign at the front, true for a minus, if there is one, and what follows it. -/
def splitSign : List Char → Option Bool × List Char
  | '-' :: rest => (some true, rest)
  | '+' :: rest => (some false, rest)
  | rest => (none, rest)

def applySign (sign : Option Bool) (n : Nat) : Int := if sign = some true then -n else n

/-- An integer in another base than ten, behind the mark of the base. A mark alone is a literal that
denotes no number. -/
def radixInteger? (base : Nat) (isDigit : Char → Bool) (run : List Char) : Option Value :=
  if run.isEmpty then some .unrepresentable
  else (runDigits? isDigit run).map fun digits => .ofInt (ofDigits base digits)

/-- Each of the pieces behind underscores begins with a digit of some base, and ends with one if
another piece follows. -/
def areJoined (pieces : List (List Char)) : Bool :=
  pieces.all (fun piece => piece.head?.any isHexDigit) &&
    pieces.dropLast.all (fun piece => piece.getLast?.any isHexDigit)

/-- A decimal integer. The piece before its first underscore consists of decimal digits without a
superfluous zero, and may be missing behind a sign. The characters within later pieces are free, but
with others than decimal digits the literal denotes no number. -/
def decimalInteger? (sign : Option Bool) (run : List Char) : Option Value :=
  match run.splitOn '_' with
  | [] => none
  | first :: later =>
    let begins :=
      if first.isEmpty then sign.isSome && !later.isEmpty
      else first.head? ≠ some '0' || run.length = 1
    if first.all Char.isDigit && begins && areJoined later then
      if later.all (·.all Char.isDigit) then
        some (.ofInt (applySign sign (ofDigits 10 (run.filter (· ≠ '_')))))
      else some .unrepresentable
    else none

/-! ## Floating point numbers -/

/-- The mark of a fraction or of an exponent. -/
def isFloatMark (c : Char) : Bool := c = '.' || c = 'e' || c = 'E'

/-- The digits before the fraction. They have no superfluous zero at their front, unless they are
set off from a sign by an underscore. -/
def wholeDigits? (sign : Option Bool) (run : List Char) : Option (List Char) :=
  match sign, run with
  | some _, '_' :: run => runDigits? Char.isDigit run
  | _, run =>
    if run.head? = some '0' && run.length ≠ 1 then none else runDigits? Char.isDigit run

/-- The exponent after an integer and a fraction, and 0 if there is none. -/
def exponent? : List Char → Option Int
  | [] => some 0
  | c :: rest =>
    if c = 'e' || c = 'E' then
      let (sign, run) := splitSign rest
      (runDigits? Char.isDigit run).map fun digits => applySign sign (ofDigits 10 digits)
    else none

def isRunChar (c : Char) : Bool := c.isDigit || c = '_'

/-- A floating point number behind its sign, with a fraction, an exponent or both. -/
def float? (sign : Option Bool) (run : List Char) : Option Value := do
  let negative := sign = some true
  let whole ← wholeDigits? sign (run.takeWhile isRunChar)
  match run.dropWhile isRunChar with
  | '.' :: rest =>
    let fraction ← runDigits? Char.isDigit (rest.takeWhile isRunChar)
    let exponent ← exponent? (rest.dropWhile isRunChar)
    return .ofDecimal negative ⟨ofDigits 10 (whole ++ fraction), exponent - fraction.length⟩
  | rest => return .ofDecimal negative ⟨ofDigits 10 whole, ← exponent? rest⟩

/-- Reads a number. Whether a token is a number literal is a matter of its shape alone; a literal
that denotes no number is `unrepresentable`. -/
def number? (token : List Char) : Option Value :=
  match token with
  | '0' :: 'x' :: run => radixInteger? 16 isHexDigit run
  | '0' :: 'o' :: run => radixInteger? 8 (fun c => '0' ≤ c && c ≤ '7') run
  | '0' :: 'b' :: run => radixInteger? 2 (fun c => c = '0' || c = '1') run
  | token =>
    let (sign, run) := splitSign token
    if run = ['i', 'n', 'f'] then some (.float (.infinite (sign = some true)))
    else if run = ['n', 'a', 'n'] then some (.float .nan)
    else if run.any isFloatMark then float? sign run
    else decimalInteger? sign run

/-! ## Dates and times -/

/-- The number that the first `n` characters write, if they are digits, and the rest. -/
def fixedDigits? (n : Nat) (s : List Char) : Option (Nat × List Char) :=
  let digits := s.take n
  if digits.length = n && digits.all Char.isDigit then some (ofDigits 10 digits, s.drop n) else none

/-- The rest after one expected character. -/
def expect? (c : Char) : List Char → Option (List Char)
  | [] => none
  | d :: rest => if c = d then some rest else none

def isLeapYear (year : Nat) : Bool :=
  year % 4 = 0 && (year % 100 ≠ 0 || year % 400 = 0)

def daysInMonth (year month : Nat) : Nat :=
  if month = 2 then if isLeapYear year then 29 else 28
  else if [4, 6, 9, 11].contains month then 30 else 31

/-- What follows a date. -/
def date? (s : List Char) : Option (List Char) := do
  let (year, s) ← fixedDigits? 4 s
  let (month, s) ← fixedDigits? 2 (← expect? '-' s)
  let (day, s) ← fixedDigits? 2 (← expect? '-' s)
  if 1 ≤ month && month ≤ 12 && 1 ≤ day && day ≤ daysInMonth year month then some s else none

/-- What follows the seconds of a time and their fraction, if there are seconds. -/
def seconds? (s : List Char) : Option (List Char) :=
  match s with
  | ':' :: s => do
    let (second, s) ← fixedDigits? 2 s
    if second ≤ 60 then
      match s with
      | '.' :: s => if (s.takeWhile Char.isDigit).isEmpty then none else s.dropWhile Char.isDigit
      | s => some s
    else none
  | s => some s

/-- What follows a time; the seconds may be left out. -/
def time? (s : List Char) : Option (List Char) := do
  let (hour, s) ← fixedDigits? 2 s
  let (minute, s) ← fixedDigits? 2 (← expect? ':' s)
  if hour ≤ 23 && minute ≤ 59 then seconds? s else none

/-- What follows an offset from universal time; the offset may be left out. -/
def offset? (s : List Char) : Option (List Char) :=
  match s with
  | 'Z' :: s => some s
  | 'z' :: s => some s
  | c :: rest =>
    if c = '+' || c = '-' then do
      let (hour, s) ← fixedDigits? 2 rest
      let (minute, s) ← fixedDigits? 2 (← expect? ':' s)
      if hour ≤ 23 && minute ≤ 59 then some s else none
    else some s
  | [] => some []

/-- A date is followed by a time after one of these. -/
def isDateDelimiter (c : Char) : Bool := c = 'T' || c = 't' || c = ' '

def isDatetime (token : List Char) : Bool :=
  match date? token with
  | some [] => true
  | some (c :: rest) => isDateDelimiter c && (time? rest).bind offset? = some []
  | none => time? token = some []

/-! ## Tokens -/

/-- Reads a whole token. -/
def scalar? (token : List Char) : Option Value :=
  if token = ['t', 'r', 'u', 'e'] then some (.boolean true)
  else if token = ['f', 'a', 'l', 's', 'e'] then some (.boolean false)
  else if isDatetime token then some (.datetime (.ofList token))
  else number? token

/-- The characters that end a token. -/
def tokenEnds : List Char := ['=', ',', '[', ']', '\x7b', '\x7d', '#', ' ', '\t', '\r', '\n']

def isTokenChar (c : Char) : Bool := !tokenEnds.contains c

/-- Reads the token at the front. A date and its time are one token, even with a blank between. -/
def readScalar? (s : List Char) : Option (Value × List Char) :=
  let token := s.takeWhile isTokenChar
  let rest := s.dropWhile isTokenChar
  match date? token, rest with
  | some [], ' ' :: after =>
    let timeToken := after.takeWhile isTokenChar
    if timeToken.head?.any Char.isDigit then
      (scalar? (token ++ ' ' :: timeToken)).map fun v => (v, after.dropWhile isTokenChar)
    else (scalar? token).map fun v => (v, rest)
  | _, _ => (scalar? token).map fun v => (v, rest)

end Scaffold.Toml
