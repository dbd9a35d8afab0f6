import Scaffold.Arguments

/-!
# The command line

The commands of the program and how arguments give them: options of the program itself, the name of
a command, and the arguments of that command. A third command of the program, `completions`, prints
scripts for a shell; it is left out, so its name is an unknown one here.
-/

set_option autoImplicit false

namespace Scaffold

/-! ## Generating -/

/-- The arguments of one generation. -/
structure GenerateCommand where
  stack : Option String := none
  name : String
  fields : String
  project : Option String := none
  output : Option String := none
  validators : Bool := false
  dryRun : Bool := false
  skipExisting : Bool := false
  format : ReportFormat := .text
  /-- The configuration file. -/
  config : Option String := none
  deriving DecidableEq, Repr

namespace GenerateCommand

def switches : List Switch :=
  [.stack, .name, .fields, .project, .output, .validators, .dryRun, .skipExisting, .format,
   .config, .help]

/-- The options that have to be given. -/
def required : List Switch := [.name, .fields]

/-- The command that options give. -/
def ofOptions (found : List (Switch × String)) : Except ArgumentError GenerateCommand :=
  match found.lookup .name, found.lookup .fields with
  | some name, some fields => .ok {
      stack := found.lookup .stack
      name, fields
      project := found.lookup .project
      output := found.lookup .output
      validators := (found.lookup .validators).isSome
      dryRun := (found.lookup .dryRun).isSome
      skipExisting := (found.lookup .skipExisting).isSome
      format := ((found.lookup .format).bind ReportFormat.ofName?).getD .text
      config := found.lookup .config }
  | _, _ =>
    .error (.missingRequired (required.filter fun o => (found.lookup o).isNone))

/-- Reads the arguments of the command; `known` are the options that may be given. -/
def parse (known : List Switch) (args : List String) : Except ArgumentError GenerateCommand := do
  match ← Scan.run known {} args with
  | (s, []) => ofOptions s.found
  | (_, extra :: _) => throw (.unexpectedArgument extra)

end GenerateCommand

/-! ## Listing stacks -/

/-- The arguments of a listing. -/
structure StacksCommand where
  format : ReportFormat := .text
  deriving DecidableEq, Repr

namespace StacksCommand

def switches : List Switch := [.format, .help]

def parse (known : List Switch) (args : List String) : Except ArgumentError StacksCommand := do
  match ← Scan.run known {} args with
  | (s, []) => return ⟨((s.found.lookup .format).bind ReportFormat.ofName?).getD .text⟩
  | (_, extra :: _) => throw (.unexpectedArgument extra)

end StacksCommand

/-! ## Commands -/

/-- What the program is asked to do. -/
inductive Command where
  | generate (c : GenerateCommand)
  | listStacks (c : StacksCommand)
  deriving DecidableEq, Repr

namespace Command

/-- The options of the program itself. -/
def switches : List Switch := [.verbose, .help, .version]

/-- The names of the commands. -/
def names : List String := ["generate", "stacks", "help"]

/-- What follows the command `help`: the name of a command or nothing. -/
def parseHelp : List String → ArgumentError
  | [] => .help
  | [name] => if names.contains name then .help else .unknownCommand name
  | name :: extra :: _ => .unknownCommand (if names.contains name then extra else name)

/-- Reads the arguments of the program. -/
def parse (args : List String) : Except ArgumentError Command := do
  match (← Scan.run switches {} args).2 with
  | [] => throw .noCommand
  | "generate" :: rest =>
    return .generate (← GenerateCommand.parse (.verbose :: GenerateCommand.switches) rest)
  | "stacks" :: rest =>
    return .listStacks (← StacksCommand.parse (.verbose :: StacksCommand.switches) rest)
  | "help" :: rest => throw (parseHelp rest)
  | name :: _ => throw (.unknownCommand name)

end Command

end Scaffold
