import Scaffold.CommandLine
import Scaffold.Config
import Scaffold.Registry

/-!
# Settings

What a generation uses after the command line, the configuration and the standard values are
merged, in this order of precedence.
-/

set_option autoImplicit false

namespace Scaffold

structure Settings where
  stack : String
  project : String
  /-- The output root. -/
  output : String
  options : Options
  overwrite : Overwrite
  deriving DecidableEq, Repr

/-- Neither the command line nor the configuration gives a stack. -/
structure MissingStack where
  deriving DecidableEq, Repr

def MissingStack.message (_ : MissingStack) : String :=
  "no stack given: pass --stack or set defaults.stack in " ++ configFile

/-- The settings of a command. A flag can switch on, but not off. -/
def GenerateCommand.settings (c : GenerateCommand) (defaults : Config) :
    Except MissingStack Settings :=
  match c.stack.or defaults.stack with
  | none => .error {}
  | some stack => .ok {
      stack
      project := (c.project.or defaults.project).getD ""
      output := (c.output.or defaults.output).getD "."
      options := { validators := c.validators || defaults.validators.getD false }
      overwrite := if c.skipExisting then .ifMissing else defaults.overwrite.getD .always }

/-- The request that a command makes under its settings. -/
def Settings.request (s : Settings) (c : GenerateCommand) : Request where
  stack := s.stack
  name := c.name
  fields := c.fields
  project := s.project
  options := s.options

end Scaffold
