import Scaffold.Disk
import Scaffold.Text.Quoted
import Scaffold.Toml.Document
import Scaffold.Toml.Representable
import Scaffold.Writer

/-!
# Configuration files

A configuration file is a TOML document with one table, `defaults`, that gives values for what the
command line leaves open. `Config.ofDocument` accepts known keys with values of the right types and
nothing else; the keys of a table are looked at in their alphabetical order, and the first fault
is reported. `Config.parse` reads the text of a file.
-/

set_option autoImplicit false

namespace Scaffold

open Toml

/-- The file that is looked up when the command line names none. -/
def configFile : String := "modgen.toml"

/-- The values that a configuration file may give. -/
structure Config where
  stack : Option String := none
  project : Option String := none
  output : Option String := none
  validators : Option Bool := none
  overwrite : Option Overwrite := none
  deriving DecidableEq, Repr

/-! ## Faults -/

/-- What is wrong with a document. -/
inductive ConfigFault where
  | unknownField (key : String) (known : List String)
  | unknownVariant (name : String) (known : List String)
  /-- A choice that is neither a name nor a table. -/
  | notAChoice
  /-- A choice given as a table with another number of keys than one. -/
  | notOneKey (keys : Nat)
  /-- A choice that comes with content. -/
  | contentOfChoice (found : Value)
  | wrongType (found : Value) (expected : String)

namespace ConfigFault

def ticked (s : String) : String := "`" ++ s ++ "`"

/-- The known names, as the end of a sentence. -/
def oneOf : List String → String
  | [a] => ticked a
  | [a, b] => ticked a ++ " or " ++ ticked b
  | names => "one of " ++ String.intercalate ", " (names.map ticked)

def floatText : FloatValue → String
  | .nan => "NaN"
  | .infinite negative => (if negative then "-" else "") ++ "inf"
  | .finite negative magnitude => (if negative then "-" else "") ++ magnitude.shortest.positional

/-- A value, as messages describe it. -/
def describe : Value → String
  | .string s => "string " ++ Text.showQuoted s
  | .integer n => "integer " ++ ticked (Text.intDigits n)
  | .float f => "floating point " ++ ticked (floatText f)
  | .unrepresentable => "number"
  | .boolean b => "boolean " ++ ticked (if b then "true" else "false")
  | .array _ => "sequence"
  | .datetime _ | .table _ => "map"

/-- The kind of a value. -/
def kind : Value → String
  | .string _ => "string"
  | .integer _ => "integer"
  | .float _ => "float"
  | .unrepresentable => "number"
  | .boolean _ => "boolean"
  | .datetime _ => "datetime"
  | .array _ => "array"
  | .table _ => "table"

def message : ConfigFault → String
  | unknownField key known => "unknown field " ++ ticked key ++ ", expected " ++ oneOf known
  | unknownVariant name known => "unknown variant " ++ ticked name ++ ", expected " ++ oneOf known
  | notAChoice => "wanted string or table"
  | notOneKey 0 => "wanted exactly 1 element, found 0 elements"
  | notOneKey _ => "wanted exactly 1 element, more than 1 element"
  | contentOfChoice (.array _) => "expected empty array"
  | contentOfChoice (.table _) => "expected empty table"
  | contentOfChoice found => "expected table, found " ++ kind found
  | wrongType found expected => "invalid type: " ++ describe found ++ ", expected " ++ expected

end ConfigFault

/-- Why there is no configuration. -/
inductive ConfigError where
  | unreadable (path : String)
  /-- The file is not a TOML document. -/
  | invalidSyntax (file : String)
  | unfit (file : String) (fault : ConfigFault)

namespace ConfigError

def message : ConfigError → String
  | unreadable path => "failed to read '" ++ path ++ "'"
  | invalidSyntax _ | unfit _ _ => "failed to parse config"

def code : ConfigError → String
  | unreadable _ => "modgen::config_read"
  | invalidSyntax _ | unfit _ _ => "modgen::config_parse"

def help? : ConfigError → Option String
  | unreadable _ => some "omit --config to fall back to built-in defaults"
  | invalidSyntax _ | unfit _ _ => none

end ConfigError

/-! ## Values -/

namespace Config

def readString : Value → Except ConfigFault String
  | .string s => .ok s
  | found => .error (.wrongType found "a string")

def readBool : Value → Except ConfigFault Bool
  | .boolean b => .ok b
  | found => .error (.wrongType found "a boolean")

def readVariant (name : String) : Except ConfigFault Overwrite :=
  match Overwrite.ofName? name with
  | some mode => .ok mode
  | none => .error (.unknownVariant name (Overwrite.all.map Overwrite.name))

/-- A mode is given by its name, or by a table whose only key is the name and has no content. -/
def readOverwrite : Value → Except ConfigFault Overwrite
  | .string name => readVariant name
  | .table [(name, content)] => do
    let mode ← readVariant name
    match content with
    | .array [] | .table [] => return mode
    | content => throw (.contentOfChoice content)
  | .table entries => .error (.notOneKey entries.length)
  | _ => .error .notAChoice

/-! ## Tables -/

/-- The keys of the table of defaults. -/
def knownKeys : List String := ["stack", "project", "output", "validators", "overwrite"]

/-- Takes over the value of one key. -/
def set (c : Config) (key : String) (v : Value) : Except ConfigFault Config :=
  match key with
  | "stack" => do return { c with stack := some (← readString v) }
  | "project" => do return { c with project := some (← readString v) }
  | "output" => do return { c with output := some (← readString v) }
  | "validators" => do return { c with validators := some (← readBool v) }
  | "overwrite" => do return { c with overwrite := some (← readOverwrite v) }
  | key => .error (.unknownField key knownKeys)

/-- Takes over values in order. -/
def setAll (c : Config) : List (String × Value) → Except ConfigFault Config
  | [] => .ok c
  | (key, v) :: rest => do (← c.set key v).setAll rest

/-- The entries of a table in the order in which they are looked at. -/
def sorted (entries : List (String × Value)) : List (String × Value) :=
  entries.mergeSort fun a b => a.1 ≤ b.1

/-- The defaults are a table, or an array with the values of the known keys in their order. -/
def readDefaults : Value → Except ConfigFault Config
  | .table entries => setAll {} (sorted entries)
  | .array values => setAll {} (knownKeys.zip values)
  | .datetime _ => .error (.unknownField datetimeKey knownKeys)
  | found => .error (.wrongType found "struct Defaults")

/-- The configuration that a document gives. -/
def ofEntries (c : Config) : List (String × Value) → Except ConfigFault Config
  | [] => .ok c
  | (key, v) :: rest =>
    if key = "defaults" then do ofEntries (← readDefaults v) rest
    else .error (.unknownField key ["defaults"])

def ofDocument (d : Document) : Except ConfigFault Config := ofEntries {} (sorted d)

/-! ## Files -/

/-- Reads the text of a file; errors name the file. A fault of a document that cannot be represented
counts as invalid syntax. -/
def parse (file text : String) : Except ConfigError Config :=
  match Toml.parse? text with
  | none => .error (.invalidSyntax file)
  | some d => match ofDocument d with
    | .ok c => .ok c
    | .error fault => .error (if representable d then .unfit file fault else .invalidSyntax file)

/-- Reads a file. -/
def ofFile (d : Disk) (path : String) : Except ConfigError Config :=
  match d.read path with
  | .ok text => parse path text
  | .error _ => .error (.unreadable path)

/-- Reads the named file; without a name, the file in the working directory if there is one. -/
def load (d : Disk) (path? : Option String) : Except ConfigError Config :=
  match path? with
  | some path => ofFile d path
  | none => if d.exists? configFile then ofFile d configFile else .ok {}

end Config

end Scaffold
