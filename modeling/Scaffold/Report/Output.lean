/-!
# Report output

A report for people is a list of notices that say what to show. The terminal shows warnings on the
error stream and all else on the output stream.
-/

set_option autoImplicit false

namespace Scaffold

/-- One thing to show. -/
inductive Notice where
  | title (text : String)
  | sectionHead (name : String)
  | keyValue (key value : String)
  | keyValueIndented (key value : String)
  | listItem (text : String)
  /-- A new file. -/
  | addedItem (text : String)
  /-- A file left untouched. -/
  | skippedItem (text : String)
  | warning (message : String)
  /-- A line that separates parts, with a label. -/
  | divider (label : String)
  | preformatted (text : String)
  | newline
  deriving DecidableEq, Repr

namespace Notice

/-- The text of a notice on the output stream. -/
def stdout : Notice → String
  | title text =>
    text ++ "\n" ++ .ofList (List.replicate text.utf8ByteSize '=') ++ "\n"
  | sectionHead name => name ++ ":\n"
  | keyValue key value => key ++ ": " ++ value ++ "\n"
  | keyValueIndented key value => "  " ++ key ++ ": " ++ value ++ "\n"
  | listItem text => "  - " ++ text ++ "\n"
  | addedItem text => "  + " ++ text ++ "\n"
  | skippedItem text => "  = " ++ text ++ " (exists)\n"
  | warning _ => ""
  | divider label => "── " ++ label ++ " ──\n"
  | preformatted text => text ++ "\n"
  | newline => "\n"

/-- The text of a notice on the error stream. -/
def stderr : Notice → String
  | warning message => "warning: " ++ message ++ "\n"
  | _ => ""

end Notice

end Scaffold
