import Scaffold.Settings

/-!
# Running commands

A generation is planned first: `GenerateCommand.plan` reads the configuration and makes the files
in memory. A dry run shows the plan and leaves the disk as it is, any other run writes the planned
files and does nothing else to the disk.
-/

set_option autoImplicit false

namespace Scaffold

/-! ## Plans -/

/-- Why a command failed. -/
inductive RunError where
  | config (e : ConfigError)
  | missingStack (e : MissingStack)
  | unsupportedStack (e : UnsupportedStack)
  | write (e : WriteError)

def RunError.message : RunError → String
  | config e => e.message
  | missingStack e => e.message
  | unsupportedStack e => e.message
  | write e => e.message

/-- The files to be written, and where. -/
structure Plan where
  generation : Generation
  output : String
  overwrite : Overwrite
  deriving DecidableEq, Repr

/-- Writes the planned files. -/
def Plan.write (p : Plan) (d : Disk) : Except WriteError (List WriteOutcome) × Disk :=
  p.generation.artifacts.write p.output p.overwrite d

/-- The report on a plan of which `result` became. -/
def Plan.report (p : Plan) (result : GenerationResult) : GenerationReport where
  stack := p.generation.stack
  entity := p.generation.entity.pascal
  fieldCount := p.generation.fields.length
  result := result

namespace GenerateCommand

/-- What the command would write. -/
def plan (c : GenerateCommand) (d : Disk) : Except RunError Plan := do
  let defaults ← (Config.load d c.config).mapError .config
  let settings ← (c.settings defaults).mapError .missingStack
  let generation ← (Registry.standard.run (settings.request c)).mapError .unsupportedStack
  return { generation, output := settings.output, overwrite := settings.overwrite }

def run (c : GenerateCommand) (d : Disk) : Except RunError GenerationReport × Disk :=
  match c.plan d with
  | .error e => (.error e, d)
  | .ok p =>
    if c.dryRun then (.ok (p.report (.preview p.generation.artifacts)), d)
    else match p.write d with
      | (.error e, d) => (.error (.write e), d)
      | (.ok files, d) => (.ok (p.report (.written p.output files)), d)

end GenerateCommand

/-! ## The program -/

/-- What a run of the program leaves besides the disk. -/
structure Outcome where
  exitCode : Nat := 0
  shown : Shown := {}
  /-- The message that ends a failed run. -/
  error? : Option String := none
  deriving DecidableEq, Repr

def programName : String := "modgen"

def programVersion : String := "0.1.0"

/-- How the program is used. -/
def usage : String :=
  "Usage: " ++ programName ++ " [-v] generate --name <NAME> --fields <FIELDS> [OPTIONS]\n" ++
  "       " ++ programName ++ " [-v] stacks [--format <FORMAT>]\n"

namespace Outcome

def ofArgumentError : ArgumentError → Outcome
  | .help => { shown := { stdout := usage } }
  | .version => { shown := { stdout := programName ++ " " ++ programVersion ++ "\n" } }
  | e => { exitCode := 2, error? := some e.message }

def ofGeneration (format : ReportFormat) : Except RunError GenerationReport → Outcome
  | .ok r => { shown := .ofReport format r.notices r.json }
  | .error e => { exitCode := 1, error? := some e.message }

end Outcome

def Command.run : Command → Disk → Outcome × Disk
  | generate c, d =>
    let (result, d) := c.run d
    (.ofGeneration c.format result, d)
  | listStacks c, d =>
    ({ shown := .ofReport c.format Registry.standard.notices Registry.standard.json }, d)

/-- Runs the program. -/
def execute (args : List String) (d : Disk) : Outcome × Disk :=
  match Command.parse args with
  | .ok c => c.run d
  | .error e => (.ofArgumentError e, d)

end Scaffold
