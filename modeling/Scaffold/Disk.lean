import Scaffold.Disk.Path

/-!
# Disks

A tree of directories and regular files as a value, together with a working directory. A node is
addressed by its location, the list of names that leads to it from the root; a path is a text that
is followed from the root or from the working directory, part by part.

`Disk.mkdir`, `Disk.write` and `Disk.remove` change a disk, all else reads it.
-/

set_option autoImplicit false

namespace Scaffold

/-- What a location holds. -/
inductive Node where
  | dir
  | file (content : String)
  deriving DecidableEq, Repr

/-- The names that lead from the root to a node. -/
abbrev Location := List String

/-- The greatest numbers of bytes in a name and in a path. -/
structure Limits where
  name : Nat
  path : Nat
  /-- `..` is within the limits. -/
  dots : 2 ≤ name
  deriving DecidableEq, Repr

/-- The limits of most file systems. -/
def Limits.usual : Limits := ⟨255, 4095, by decide⟩

/-- A tree of directories and files. The root is a directory and is not listed. -/
structure Disk where
  nodes : List (Location × Node) := []
  workingDir : Location := []
  limits : Option Limits := none
  deriving DecidableEq, Repr

/-- Why a file operation failed. -/
inductive DiskError where
  /-- The path holds a character that no path may hold. -/
  | invalidPath
  /-- A name or the whole path is longer than the disk permits. -/
  | nameTooLong
  | notFound
  | notADirectory
  | isADirectory
  | alreadyExists
  deriving DecidableEq, Repr

/-- The locations that following `parts` from `loc` passes. -/
def Path.passed (loc : Location) : List String → List Location
  | [] => []
  | part :: rest =>
    if isIdle part then passed loc rest
    else if part = ".." then passed loc.dropLast rest
    else (loc ++ [part]) :: passed (loc ++ [part]) rest

namespace Disk

/-! ## Locations -/

def find? (d : Disk) (loc : Location) : Option Node :=
  if loc = [] then some .dir else d.nodes.lookup loc

/-- `nodes` with `node` at `loc`, in the place of what was there or else at the end. -/
def putNode (loc : Location) (node : Node) : List (Location × Node) → List (Location × Node)
  | [] => [(loc, node)]
  | (other, old) :: rest =>
    if other = loc then (loc, node) :: rest else (other, old) :: putNode loc node rest

def put (d : Disk) (loc : Location) (node : Node) : Disk :=
  { d with nodes := putNode loc node d.nodes }

/-! ## Following paths -/

/-- The name is within the limits. -/
def admitsName (d : Disk) (name : String) : Bool := d.limits.all (name.utf8ByteSize ≤ ·.name)

/-- The path is within the limits, whatever its parts. -/
def admitsPath (d : Disk) (path : String) : Bool := d.limits.all (path.utf8ByteSize ≤ ·.path)

/-- The location from which a path is followed. -/
def start (d : Disk) (path : String) : Location :=
  if Path.isAbsolute path then [] else d.workingDir

/-- Follows `parts` from the directory at `loc`; every node on the way has to be a directory. -/
def enter (d : Disk) (loc : Location) : List String → Except DiskError Location
  | [] => .ok loc
  | part :: rest =>
    if Path.isIdle part then d.enter loc rest
    else if part = ".." then d.enter loc.dropLast rest
    else if !d.admitsName part then .error .nameTooLong
    else match d.find? (loc ++ [part]) with
      | some .dir => d.enter (loc ++ [part]) rest
      | some (.file _) => .error .notADirectory
      | none => .error .notFound

/-- The directory that a path's last part stands in, and that part. -/
def enterParent (d : Disk) (path : String) : Except DiskError (Location × String) := do
  if path.toList.contains '\x00' then throw .invalidPath
  if path.isEmpty then throw .notFound
  if !d.admitsPath path then throw .nameTooLong
  let parts := Path.parts path
  let loc ← d.enter (d.start path) parts.dropLast
  let part := parts.getLastD ""
  if d.admitsName part then return (loc, part) else throw .nameTooLong

/-- The location and the node that a path leads to. -/
def resolve (d : Disk) (path : String) : Except DiskError (Location × Node) := do
  let (loc, part) ← d.enterParent path
  if Path.isIdle part then return (loc, .dir)
  if part = ".." then return (loc.dropLast, .dir)
  match d.find? (loc ++ [part]) with
  | some node => return (loc ++ [part], node)
  | none => throw .notFound

def exists? (d : Disk) (path : String) : Bool :=
  match d.resolve path with
  | .ok _ => true
  | .error _ => false

def isDir (d : Disk) (path : String) : Bool :=
  match d.resolve path with
  | .ok (_, .dir) => true
  | _ => false

/-- The content of the file at `path`. -/
def read (d : Disk) (path : String) : Except DiskError String := do
  match ← d.resolve path with
  | (_, .file content) => return content
  | (_, .dir) => throw .isADirectory

/-! ## Changes -/

/-- Makes one directory. -/
def mkdir (d : Disk) (path : String) : Except DiskError Disk := do
  let (loc, part) ← d.enterParent path
  if Path.isIdle part || part = ".." then throw .alreadyExists
  match d.find? (loc ++ [part]) with
  | some _ => throw .alreadyExists
  | none => return d.put (loc ++ [part]) .dir

/-- Makes a file or replaces its content. -/
def write (d : Disk) (path content : String) : Except DiskError Disk := do
  let (loc, part) ← d.enterParent path
  if Path.isIdle part || part = ".." then throw .isADirectory
  match d.find? (loc ++ [part]) with
  | some .dir => throw .isADirectory
  | _ => return d.put (loc ++ [part]) (.file content)

/-- Removes a file, or a directory with all that is below it. -/
def remove (d : Disk) (path : String) : Except DiskError Disk := do
  let (loc, _) ← d.resolve path
  return { d with nodes := d.nodes.filter fun (other, _) => !loc.isPrefixOf other }

/-! ## Listing -/

/-- The files below the directory at `loc`: their paths from there and their contents, sorted by
path. -/
def filesBelow (d : Disk) (loc : Location) : List (String × String) :=
  (d.nodes.filterMap fun (other, node) =>
    match node with
    | .file content =>
      if loc.isPrefixOf other then some (Path.ofParts (other.drop loc.length), content) else none
    | .dir => none).mergeSort fun a b => a.1 ≤ b.1

end Disk

end Scaffold
