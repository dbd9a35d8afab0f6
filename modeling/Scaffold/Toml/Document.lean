import Scaffold.Toml.Quoted
import Scaffold.Toml.Table

/-!
# Reading TOML documents

`parse?` reads a document line by line: comments, table headers, and keys with their values. Arrays
and inline tables may span lines, also around the equals sign of an entry. It answers nothing if the
text is not a valid document or nests deeper than `maxDepth`.
-/

set_option autoImplicit false

namespace Scaffold.Toml

/-! ## Space between items -/

/-- The rest behind a comment, if there is one; nothing if it holds a control character. -/
def skipComment? (s : List Char) : Option (List Char) :=
  match s with
  | '#' :: s =>
    let rest := s.dropWhile isPlain
    if rest.isEmpty || (lineEnding? rest).isSome then some rest else none
  | s => some s

/-- Skips blanks, comments and line endings. -/
def skipLines? : Nat → List Char → Option (List Char)
  | 0, _ => none
  | fuel + 1, s => do
    let s ← skipComment? (s.dropWhile isSpace)
    match lineEnding? s with
    | some s => skipLines? fuel s
    | none => return s

/-- The rest behind the end of a line, before which there may be blanks and a comment. -/
def endLine? (s : List Char) : Option (List Char) := do
  let s ← skipComment? (s.dropWhile isSpace)
  if s.isEmpty then return s else lineEnding? s

/-! ## Values -/

mutual

/-- Reads the value at the front. The fuel bounds the number of steps, and `depth` the number of
arrays and inline tables that may be open at once. -/
def value? : Nat → Nat → List Char → Option (Value × List Char)
  | 0, _, _ => none
  | fuel + 1, depth, s => match s, depth with
    | '[' :: _, 0 | '\x7b' :: _, 0 => none
    | '[' :: s, depth + 1 => do
      let (items, s) ← items? fuel depth s
      return (.array items, s)
    | '\x7b' :: s, depth + 1 => do
      let (entries, s) ← inline? fuel depth [] s
      return (.table (finishEntries entries), s)
    | '"' :: _, _ | '\'' :: _, _ => (string? s).map fun (text, s) => (.string text, s)
    | s, _ => readScalar? s

/-- Reads the items of an array and its closing bracket; a comma may follow the last item. -/
def items? : Nat → Nat → List Char → Option (List Value × List Char)
  | 0, _, _ => none
  | fuel + 1, depth, s => do
    match ← skipLines? (s.length + 1) s with
    | ']' :: s => return ([], s)
    | s =>
      let (item, s) ← value? fuel depth s
      match ← skipLines? (s.length + 1) s with
      | ',' :: s =>
        let (items, s) ← items? fuel depth s
        return (item :: items, s)
      | ']' :: s => return ([item], s)
      | _ => none

/-- Reads the entries of an inline table and its closing brace; a comma may follow the last one. -/
def inline? : Nat → Nat → Entries → List Char → Option (Entries × List Char)
  | 0, _, _, _ => none
  | fuel + 1, depth, entries, s => do
    match ← skipLines? (s.length + 1) s with
    | '\x7d' :: s => return (entries, s)
    | s =>
      let (entries, s) ← entry? fuel depth entries s
      match ← skipLines? (s.length + 1) s with
      | ',' :: s => inline? fuel depth entries s
      | '\x7d' :: s => return (entries, s)
      | _ => none

/-- Reads a key and its value and adds them to the entries of an inline table. -/
def entry? : Nat → Nat → Entries → List Char → Option (Entries × List Char)
  | 0, _, _, _ => none
  | fuel + 1, depth, entries, s => do
    let (keys, s) ← dottedKey? s
    let s ← expect? '=' (← skipLines? (s.length + 1) s)
    let (v, s) ← value? fuel depth (← skipLines? (s.length + 1) s)
    return (← entries.assign? (.value v) .header keys, s)

end

/-! ## Lines -/

/-- What has been read: the entries of the document, and the path of the table that keys are added
to. -/
structure Reading where
  entries : Entries := []
  current : List String := []

/-- Opens the table of a header with one bracket or, if `element`, with two. -/
def Reading.open? (r : Reading) (element : Bool) (path : List String) : Option Reading := do
  let key ← path.getLast?
  let opening := if element then Entries.openElement? key else Entries.openTable? key
  return ⟨← r.entries.within? opening path.dropLast, path⟩

/-- Reads a header behind its first bracket. -/
def header? (r : Reading) (s : List Char) : Option (Reading × List Char) :=
  match s with
  | '[' :: s => do
    let (path, s) ← dottedKey? s
    return (← r.open? true path, ← expect? ']' (← expect? ']' s))
  | s => do
    let (path, s) ← dottedKey? s
    return (← r.open? false path, ← expect? ']' s)

/-- Adds a key and its value to the current table. -/
def Reading.keyValue? (r : Reading) (s : List Char) : Option (Reading × List Char) := do
  let (keys, s) ← dottedKey? s
  let (v, s) ← value? (2 * s.length + 2) maxDepth ((← expect? '=' s).dropWhile isSpace)
  let entries ← r.entries.within? (Entries.assign? (.value v) .header keys) r.current
  return ({ r with entries }, s)

/-- Reads the lines of a document. The fuel bounds their number. -/
def lines? : Nat → Reading → List Char → Option Reading
  | 0, _, _ => none
  | fuel + 1, r, s => do
    match ← skipLines? (s.length + 1) s with
    | [] => return r
    | '[' :: s =>
      let (r, s) ← header? r s
      lines? fuel r (← endLine? s)
    | s =>
      let (r, s) ← r.keyValue? s
      lines? fuel r (← endLine? s)

/-- Drops a byte order mark at the front. -/
def dropByteOrderMark : List Char → List Char
  | '\ufeff' :: s => s
  | s => s

/-- Reads a document. -/
def parse? (text : String) : Option Document :=
  let s := dropByteOrderMark text.toList
  (lines? (s.length + 1) {} s).map fun r => finishEntries r.entries

end Scaffold.Toml
