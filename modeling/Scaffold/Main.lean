import Scaffold.Execution

/-!
# The program on a file system

A run works on a `Disk`. What it can reach of the file system is put on one first: the
configuration file, and after the files are planned, every place that their paths lead through.
What the run changed is then carried out.
-/

set_option autoImplicit false

namespace Scaffold

/-- The absolute path of a location. -/
def Path.ofLocation (loc : Location) : String := "/" ++ ofParts loc

/-! ## Looking -/

def canOpen (path : String) : IO Bool := do
  try
    discard <| IO.FS.Handle.mk path .read
    return true
  catch _ => return false

/-- What stands at a path; `unreadable` stands for a file that holds no text. -/
def look? (unreadable : Node) (path : String) : IO (Option Node) := do
  if ← canOpen (path ++ "/.") then return some .dir
  if !(← canOpen path) then return none
  try return some (.file (← IO.FS.readFile path))
  catch _ => return some unreadable

/-- Puts on the disk what stands along a path. -/
def Disk.observe (unreadable : Node) (d : Disk) (path : String) : IO Disk :=
  (Path.passed (d.start path) (Path.parts path)).foldlM (fun d loc => do
    if (d.find? loc).isSome then return d
    match ← look? unreadable (Path.ofLocation loc) with
    | some node => return d.put loc node
    | none => return d) d

/-- The part of the file system that a run can reach. A configuration without text cannot be read;
any other file can be replaced. -/
def reachable (args : List String) : IO Disk := do
  let here := (Path.parts (← IO.currentDir).toString).filter (!Path.isIdle ·)
  let d : Disk := { workingDir := here, limits := some .usual }
  match Command.parse args with
  | .ok (.generate c) =>
    let d ← d.observe .dir (c.config.getD configFile)
    match c.plan d with
    | .ok p => p.generation.artifacts.paths.foldlM (fun d path =>
        d.observe (.file "") (Path.join p.output path)) d
    | .error _ => return d
  | _ => return d

/-! ## Acting -/

/-- Carries out the changes from one disk to another. -/
def carryOut (before after : Disk) : IO Unit :=
  for (loc, node) in after.nodes do
    if before.find? loc ≠ some node then
      match node with
      | .dir => IO.FS.createDir (Path.ofLocation loc)
      | .file content => IO.FS.writeFile (Path.ofLocation loc) content

end Scaffold

open Scaffold in
/-- Runs the program with the arguments of the process. -/
def main (args : List String) : IO UInt32 := do
  let before ← reachable args
  let (outcome, after) := execute args before
  carryOut before after
  IO.print outcome.shown.stdout
  IO.eprint outcome.shown.stderr
  if let some message := outcome.error? then IO.eprintln ("error: " ++ message)
  return outcome.exitCode.toUInt32
