import Scaffold.Toml.Value

/-!
# Assembling TOML tables

While a document is read, a table remembers how it came about, which decides what may still be added
to it: a header opens a table once, dotted keys only extend tables that dotted keys made, and a
value is closed. `none` stands for a key that is given twice.
-/

set_option autoImplicit false

namespace Scaffold.Toml

/-- How a table came about. -/
inductive Origin where
  /-- On the way to the table of a header. -/
  | passed
  /-- By a dotted key. -/
  | dotted
  /-- By its own header. -/
  | header
  deriving DecidableEq, Repr

/-- What a key of an unfinished document stands for. -/
inductive Item where
  | value (v : Value)
  | table (origin : Origin) (entries : List (String × Item))
  /-- An array of tables; only the last of them can be extended. -/
  | tables (done : List (List (String × Item))) (last : List (String × Item))

/-- The entries of an unfinished table. -/
abbrev Entries := List (String × Item)

namespace Entries

/-- `entries` with `item` for `key`, in its old place or else at the end. -/
def put (key : String) (item : Item) : Entries → Entries
  | [] => [(key, item)]
  | (other, old) :: rest =>
    if other = key then (key, item) :: rest else (other, old) :: put key item rest

/-- Adds a key that is not there yet. -/
def add? (key : String) (item : Item) (entries : Entries) : Option Entries :=
  match entries.lookup key with
  | none => some (entries ++ [(key, item)])
  | some _ => none

/-- Changes the entries of the table at `path`, where headers pass through existing tables and make
the missing ones. -/
def within? (change : Entries → Option Entries) : List String → Entries → Option Entries
  | [], entries => change entries
  | key :: path, entries =>
    match entries.lookup key with
    | none => do return entries.put key (.table .passed (← within? change path []))
    | some (.table origin inner) => do
      return entries.put key (.table origin (← within? change path inner))
    | some (.tables done last) => do
      return entries.put key (.tables done (← within? change path last))
    | some (.value _) => none

/-- Opens the table of a header; `key` is the last part of its name. -/
def openTable? (key : String) (entries : Entries) : Option Entries :=
  match entries.lookup key with
  | none => some (entries.put key (.table .header []))
  | some (.table .passed inner) => some (entries.put key (.table .header inner))
  | some _ => none

/-- Adds a table to the array of a header. -/
def openElement? (key : String) (entries : Entries) : Option Entries :=
  match entries.lookup key with
  | none => some (entries.put key (.tables [] []))
  | some (.tables done last) => some (entries.put key (.tables (done ++ [last]) []))
  | some _ => none

/-- Sets a dotted key. `origin` tells how the table came about that holds the last part; it is a
table of the dotted key itself, unless the key has one part only. -/
def assign? (item : Item) (origin : Origin) : List String → Entries → Option Entries
  | [], _ => none
  | [key], entries => if origin = .passed then none else entries.add? key item
  | key :: path, entries =>
    match entries.lookup key with
    | none => do return entries.put key (.table .dotted (← assign? item .dotted path []))
    | some (.table .header _) => none
    | some (.table origin inner) => do
      return entries.put key (.table origin (← assign? item origin path inner))
    | some (.tables done last) => do
      return entries.put key (.tables done (← assign? item .passed path last))
    | some (.value _) => none

end Entries

/-! ## Finished tables -/

mutual

def Item.finish : Item → Value
  | .value v => v
  | .table _ entries => .table (finishEntries entries)
  | .tables done last => .array (finishTables done ++ [.table (finishEntries last)])

def finishEntries : List (String × Item) → List (String × Value)
  | [] => []
  | (key, item) :: rest => (key, item.finish) :: finishEntries rest

def finishTables : List (List (String × Item)) → List Value
  | [] => []
  | entries :: rest => .table (finishEntries entries) :: finishTables rest

end

end Scaffold.Toml
