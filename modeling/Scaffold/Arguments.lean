import Scaffold.Report

/-!
# Arguments

The options of the command line and the way they are written. A long option is written `--name`, a
short one `-n`; short options without values may be joined, as in `-vv`. A value is the next
argument, or it is attached: `--name=value`, `-n=value` or `-nvalue`. An argument that starts with
`-` is never the value of the option before it, except `-` alone.

`Scan.run` reads arguments from left to right. An option that takes a value stays open until the
next option or the end of the arguments settles it, so a name that denotes no option is reported
before a fault of the open one.
-/

set_option autoImplicit false

namespace Scaffold

/-! ## Options -/

/-- An option of the command line. -/
inductive Switch where
  | stack
  | name
  | fields
  | project
  | output
  | validators
  | dryRun
  | skipExisting
  | format
  | config
  | verbose
  | help
  | version
  deriving DecidableEq, Repr

namespace Switch

/-- The name after two dashes. -/
def long : Switch → String
  | stack => "stack"
  | name => "name"
  | fields => "fields"
  | project => "project"
  | output => "output"
  | validators => "validators"
  | dryRun => "dry-run"
  | skipExisting => "skip-existing"
  | format => "format"
  | config => "config"
  | verbose => "verbose"
  | help => "help"
  | version => "version"

/-- The letter after one dash. -/
def short? : Switch → Option Char
  | stack => some 's'
  | name => some 'n'
  | fields => some 'f'
  | project => some 'p'
  | output => some 'o'
  | validators | dryRun | skipExisting | format => none
  | config => some 'c'
  | verbose => some 'v'
  | help => some 'h'
  | version => some 'V'

def takesValue : Switch → Bool
  | stack | name | fields | project | output | format | config => true
  | validators | dryRun | skipExisting | verbose | help | version => false

/-- May be given more than once. -/
def repeatable : Switch → Bool
  | verbose => true
  | _ => false

/-- The values that an option admits. A path is not empty. -/
def admits : Switch → String → Bool
  | output, value | config, value => !value.isEmpty
  | format, value => (ReportFormat.ofName? value).isSome
  | _, _ => true

end Switch

/-! ## Errors -/

/-- Why arguments give no command. -/
inductive ArgumentError where
  /-- The arguments ask how the program is used. -/
  | help
  /-- The arguments ask for the version of the program. -/
  | version
  | unknownOption (text : String)
  | unexpectedArgument (text : String)
  | missingValue (o : Switch)
  | invalidValue (o : Switch) (value : String)
  /-- A value is attached to an option that takes none. -/
  | unwantedValue (o : Switch) (value : String)
  | repeated (o : Switch)
  | missingRequired (options : List Switch)
  | noCommand
  | unknownCommand (name : String)
  deriving DecidableEq, Repr

namespace ArgumentError

def message : ArgumentError → String
  | help => "help requested"
  | version => "version requested"
  | unknownOption text => "unknown option '" ++ text ++ "'"
  | unexpectedArgument text => "unexpected argument '" ++ text ++ "'"
  | missingValue o => "option '--" ++ o.long ++ "' needs a value"
  | invalidValue o value => "option '--" ++ o.long ++ "' does not admit '" ++ value ++ "'"
  | unwantedValue o value => "option '--" ++ o.long ++ "' takes no value, but got '" ++ value ++ "'"
  | repeated o => "option '--" ++ o.long ++ "' is given more than once"
  | missingRequired options =>
    "missing " ++ String.intercalate ", " (options.map fun o => "'--" ++ o.long ++ "'")
  | noCommand => "no command given"
  | unknownCommand name => "unknown command '" ++ name ++ "'"

end ArgumentError

/-! ## Reading -/

/-- What was read so far. -/
structure Scan where
  /-- The settled options with their values, in order. The value of a flag is empty. -/
  found : List (Switch × String) := []
  /-- The open option, with its value once that is read. -/
  opened : Option (Switch × Option String) := none
  deriving DecidableEq, Repr

namespace Scan

def record (s : Scan) (o : Switch) (value : String) : Except ArgumentError Scan :=
  if o = .help then .error .help
  else if o = .version then .error .version
  else if !o.repeatable && s.found.any (·.1 = o) then .error (.repeated o)
  else if o.admits value then .ok { s with found := s.found ++ [(o, value)] }
  else .error (.invalidValue o value)

/-- Records the open option, if there is one. -/
def settle (s : Scan) : Except ArgumentError Scan :=
  match s.opened with
  | none => .ok s
  | some (o, none) => .error (.missingValue o)
  | some (o, some value) => { s with opened := none }.record o value

/-- Takes a flag, or an option with its attached value. -/
def take (s : Scan) (o : Switch) (value : String) : Except ArgumentError Scan := do
  (← s.settle).record o value

/-- Opens an option whose value is the next argument. -/
def await (s : Scan) (o : Switch) : Except ArgumentError Scan := do
  return { ← s.settle with opened := some (o, none) }

/-- Takes what follows two dashes. -/
def takeLong (known : List Switch) (s : Scan) (text : List Char) : Except ArgumentError Scan :=
  let name := String.ofList (text.takeWhile (· ≠ '='))
  match known.find? (·.long = name), text.dropWhile (· ≠ '=') with
  | none, _ => .error (.unknownOption ("--" ++ name))
  | some o, [] => if o.takesValue then s.await o else s.take o ""
  | some o, _ :: value =>
    if o.takesValue then s.take o (.ofList value) else .error (.unwantedValue o (.ofList value))

/-- Takes the letters that follow one dash. The first option that takes a value takes the letters
after it. -/
def takeShort (known : List Switch) (s : Scan) : List Char → Except ArgumentError Scan
  | [] => .ok s
  | letter :: rest =>
    match known.find? (·.short? = some letter) with
    | none => .error (.unknownOption ("-" ++ letter.toString))
    | some o =>
      if o.takesValue then
        match rest with
        | [] => s.await o
        | '=' :: value => s.take o (.ofList value)
        | value => s.take o (.ofList value)
      else do takeShort known (← s.take o "") rest

/-- Reads options up to the end of the arguments, where all are settled, or up to an argument that
is neither an option nor a value; that argument and those after it are left over. After `--` there
may be no argument. -/
def run (known : List Switch) (s : Scan) :
    List String → Except ArgumentError (Scan × List String)
  | [] => do return (← s.settle, [])
  | arg :: rest =>
    match arg.toList, s.opened with
    | ['-', '-'], _ =>
      match rest with
      | [] => do return (← s.settle, [])
      | extra :: _ => .error (.unexpectedArgument extra)
    | '-' :: '-' :: text, _ => do run known (← s.takeLong known text) rest
    | '-' :: letter :: letters, _ => do run known (← s.takeShort known (letter :: letters)) rest
    | _, some (o, none) => run known { s with opened := some (o, some arg) } rest
    | _, _ => .ok (s, arg :: rest)

end Scan

end Scaffold
