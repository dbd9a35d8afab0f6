import Scaffold.Toml.Scalar

/-!
# TOML strings and keys

Basic strings stand between double quotes and have escapes, literal strings stand between single
quotes and have none; three quotes open a string that may span lines. Each reader starts behind the
opening quotes and answers with the text and the rest of the input.
-/

set_option autoImplicit false

namespace Scaffold.Toml

/-! ## Characters -/

/-- The characters of a comment and, but for quotes and backslashes, of a string. -/
def isPlain (c : Char) : Bool :=
  c = '\t' || (0x20 ≤ c.toNat && c.toNat ≠ 0x7F)

/-- The character with this code, which must not be a surrogate. -/
def scalarValue? (n : Nat) : Option Char :=
  if n.isValidChar then some (.ofNat n) else none

/-- The character whose code the first `n` characters write in hexadecimal, and the rest. -/
def codeEscape? (n : Nat) (s : List Char) : Option (Char × List Char) :=
  let digits := s.take n
  if digits.length = n && digits.all isHexDigit then
    (scalarValue? (ofDigits 16 digits)).map fun c => (c, s.drop n)
  else none

/-- The character that an escape stands for, read behind its backslash, and the rest. -/
def escape? : List Char → Option (Char × List Char)
  | [] => none
  | c :: s => match c with
    | 'b' => some ('\x08', s)
    | 't' => some ('\t', s)
    | 'n' => some ('\n', s)
    | 'f' => some ('\x0c', s)
    | 'r' => some ('\r', s)
    | 'e' => some ('\x1b', s)
    | '"' => some ('"', s)
    | '\\' => some ('\\', s)
    | 'x' => codeEscape? 2 s
    | 'u' => codeEscape? 4 s
    | 'U' => codeEscape? 8 s
    | _ => none

/-! ## Blanks and line endings -/

def isSpace (c : Char) : Bool := c = ' ' || c = '\t'

/-- The rest behind a line ending, if there is one. -/
def lineEnding? : List Char → Option (List Char)
  | '\n' :: s => some s
  | '\r' :: '\n' :: s => some s
  | _ => none

/-- Drops one line ending at the front. -/
def dropLineEnding (s : List Char) : List Char := (lineEnding? s).getD s

/-- Drops the blanks and line endings at the front. -/
def dropBlankLines : List Char → List Char
  | '\r' :: '\n' :: s => dropBlankLines s
  | c :: s => if isSpace c || c = '\n' then dropBlankLines s else c :: s
  | [] => []

/-- The rest behind a backslash that ends its line: the blanks and line endings after it are
dropped. -/
def continuation? (s : List Char) : Option (List Char) :=
  (lineEnding? (s.dropWhile isSpace)).map dropBlankLines

/-! ## Strings on one line -/

/-- Reads a basic string. The fuel bounds the number of characters and escapes. -/
def basic? : Nat → List Char → Option (List Char × List Char)
  | 0, _ => none
  | fuel + 1, s => match s with
    | [] => none
    | '"' :: s => some ([], s)
    | '\\' :: s => do
      let (c, s) ← escape? s
      let (text, s) ← basic? fuel s
      return (c :: text, s)
    | c :: s =>
      if isPlain c then (basic? fuel s).map fun (text, s) => (c :: text, s) else none

/-- Reads a literal string. -/
def literal? : List Char → Option (List Char × List Char)
  | [] => none
  | '\'' :: s => some ([], s)
  | c :: s => if isPlain c then (literal? s).map fun (text, s) => (c :: text, s) else none

/-! ## Strings on several lines -/

/-- The quotes of the text in front of three closing ones, of up to five at the front, and the rest;
nothing if there are fewer than three. -/
def closing? (quote : Char) (s : List Char) : Option (List Char × List Char) :=
  let quotes := (s.take 5).takeWhile (· = quote)
  if quotes.length < 3 then none else some (quotes.drop 3, s.drop quotes.length)

/-- Reads a basic string on several lines. -/
def longBasic? : Nat → List Char → Option (List Char × List Char)
  | 0, _ => none
  | fuel + 1, s => match closing? '"' s with
    | some result => some result
    | none => match s with
      | [] => none
      | '\\' :: s => match continuation? s with
        | some s => longBasic? fuel s
        | none => do
          let (c, s) ← escape? s
          let (text, s) ← longBasic? fuel s
          return (c :: text, s)
      | '\r' :: '\n' :: s => (longBasic? fuel s).map fun (text, s) => ('\r' :: '\n' :: text, s)
      | c :: s =>
        if isPlain c || c = '\n' then (longBasic? fuel s).map fun (text, s) => (c :: text, s)
        else none

/-- Reads a literal string on several lines. -/
def longLiteral? : Nat → List Char → Option (List Char × List Char)
  | 0, _ => none
  | fuel + 1, s => match closing? '\'' s with
    | some result => some result
    | none => match s with
      | [] => none
      | '\r' :: '\n' :: s => (longLiteral? fuel s).map fun (text, s) => ('\r' :: '\n' :: text, s)
      | c :: s =>
        if isPlain c || c = '\n' then (longLiteral? fuel s).map fun (text, s) => (c :: text, s)
        else none

/-- Reads the string at the front, quotes included. -/
def string? (s : List Char) : Option (String × List Char) :=
  (match s with
    | '"' :: '"' :: '"' :: s => longBasic? (s.length + 1) (dropLineEnding s)
    | '"' :: s => basic? (s.length + 1) s
    | '\'' :: '\'' :: '\'' :: s => longLiteral? (s.length + 1) (dropLineEnding s)
    | '\'' :: s => literal? s
    | _ => none).map fun (text, s) => (.ofList text, s)

/-! ## Keys -/

/-- The characters of a key without quotes. -/
def isBare (c : Char) : Bool := c.isAlphanum || c = '_' || c = '-'

/-- Reads a key without quotes. -/
def bareKey? (s : List Char) : Option (List Char × List Char) :=
  if (s.takeWhile isBare).isEmpty then none else some (s.takeWhile isBare, s.dropWhile isBare)

/-- Reads one key: bare, or a string on one line. -/
def simpleKey? (s : List Char) : Option (String × List Char) :=
  (match s with
    | '"' :: s => basic? (s.length + 1) s
    | '\'' :: s => literal? s
    | s => bareKey? s).map fun (text, s) => (.ofList text, s)

/-- Reads at most `limit` keys with dots between them, and the blanks around each. -/
def keys? (limit : Nat) (s : List Char) : Option (List String × List Char) :=
  match limit with
  | 0 => none
  | limit + 1 => do
    let (key, s) ← simpleKey? (s.dropWhile isSpace)
    match s.dropWhile isSpace with
    | '.' :: s => (keys? limit s).map fun (keys, s) => (key :: keys, s)
    | s => return ([key], s)

/-- The greatest number of keys in a dotted key, and of arrays and inline tables around a value. -/
def maxDepth : Nat := 80

def dottedKey? (s : List Char) : Option (List String × List Char) := keys? maxDepth s

end Scaffold.Toml
