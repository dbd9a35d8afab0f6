import Scaffold.Registry
import Scaffold.Report.Json
import Scaffold.Report.Output
import Scaffold.Writer

/-!
# Reports

What a run of the program tells: the result of a generation, and the list of the registered stacks.
Each report has a form for people, `notices`, and a form for programs, `json`; `Shown.ofReport`
chooses between the two.
-/

set_option autoImplicit false

namespace Scaffold

open Text

/-! ## Showing -/

/-- The form in which a report is shown. -/
inductive ReportFormat where
  | text
  | json
  deriving DecidableEq, Repr

namespace ReportFormat

def all : List ReportFormat := [text, json]

def name : ReportFormat → String
  | text => "text"
  | json => "json"

/-- The format with exactly this name. -/
def ofName? (name : String) : Option ReportFormat :=
  all.find? (·.name = name)

end ReportFormat

/-- What a report shows on the output stream and on the error stream. -/
structure Shown where
  stdout : String := ""
  stderr : String := ""
  deriving DecidableEq, Repr

namespace Shown

def ofNotices (notices : List Notice) : Shown where
  stdout := String.join (notices.map Notice.stdout)
  stderr := String.join (notices.map Notice.stderr)

def ofReport (format : ReportFormat) (notices : List Notice) (json : Json) : Shown :=
  match format with
  | .text => ofNotices notices
  | .json => { stdout := json.text ++ "\n" }

end Shown

/-! ## Generations -/

/-- What became of the generated files. -/
inductive GenerationResult where
  | written (outputDir : String) (files : List WriteOutcome)
  /-- Nothing was written. -/
  | preview (files : ArtifactSet)
  deriving DecidableEq, Repr

structure GenerationReport where
  stack : Stack
  /-- The type name of the entity. -/
  entity : String
  fieldCount : Nat
  result : GenerationResult
  deriving DecidableEq, Repr

namespace GenerationReport

def skippedCount (files : List WriteOutcome) : Nat :=
  files.countP (·.result = .skipped)

def fileNotice (o : WriteOutcome) : Notice :=
  match o.result with
  | .written => .addedItem o.path
  | .skipped => .skippedItem o.path

def notices (r : GenerationReport) : List Notice :=
  match r.result with
  | .written outputDir files =>
    [.keyValue "Stack" r.stack.name,
     .keyValue "Entity" (r.entity ++ " (" ++ natDigits r.fieldCount ++ " fields)"),
     .keyValue "Output" outputDir,
     .newline,
     .sectionHead ("Files (" ++ natDigits files.length ++ ")")] ++
    files.map fileNotice ++
    if skippedCount files = 0 then [] else
      [.newline,
       .warning (natDigits (skippedCount files) ++
         " existing file(s) left untouched (--skip-existing)")]
  | .preview files =>
    files.flatMap (fun a => [.divider a.path, .preformatted a.content]) ++
    [.divider "Summary", .preformatted (natDigits files.length ++ " files would be generated")]

def outcomeJson (o : WriteOutcome) : Json :=
  .object [("path", .string o.path), ("result", .string o.result.name)]

def artifactJson (a : Artifact) : Json :=
  .object [("path", .string a.path), ("kind", .string a.kind.name), ("content", .string a.content)]

def json (r : GenerationReport) : Json :=
  .object (
    [("stack", .string r.stack.name), ("entity", .string r.entity),
     ("field_count", .number r.fieldCount)] ++
    match r.result with
    | .written outputDir files =>
      [("mode", .string "written"), ("output_dir", .string outputDir),
       ("files", .array (files.map outcomeJson))]
    | .preview files =>
      [("mode", .string "preview"), ("files", .array (files.map artifactJson))])

end GenerationReport

/-! ## Stacks -/

namespace Registry

def stackNotices (g : Generator) : List Notice :=
  [.newline,
   .sectionHead (g.stack.name ++ " - " ++ g.stack.description),
   .keyValueIndented "default type" g.stack.stringType,
   .keyValueIndented "artifacts" (String.intercalate ", " (g.kinds.map ArtifactKind.name))] ++
  g.optionInfos.map fun o => .listItem ("--" ++ o.name ++ ": " ++ o.description)

/-- The registered stacks, for people. -/
def notices (r : Registry) : List Notice :=
  [.title "Supported stacks"] ++ r.generators.flatMap stackNotices

def stackJson (g : Generator) : Json :=
  .object [
    ("name", .string g.stack.name),
    ("description", .string g.stack.description),
    ("default_type", .string g.stack.stringType),
    ("artifacts", .array (g.kinds.map fun kind => .string kind.name)),
    ("options", .array (g.optionInfos.map fun o =>
      .object [("name", .string o.name), ("description", .string o.description)]))]

/-- The registered stacks, for programs. -/
def json (r : Registry) : Json :=
  .object [("stacks", .array (r.generators.map stackJson))]

end Registry

end Scaffold
