import Scaffold.Artifact
import Scaffold.Disk

/-!
# Writing artifacts

A set of artifacts is written in order below a root directory; missing directories are made on the
way. The first failure ends the writing, and what was written before it stays: every function here
answers with the disk that it leaves behind.
-/

set_option autoImplicit false

namespace Scaffold

/-- What to do with a file that is already there. -/
inductive Overwrite where
  /-- Replace its content. -/
  | always
  /-- Leave it untouched. -/
  | ifMissing
  deriving DecidableEq, Repr

namespace Overwrite

def all : List Overwrite := [always, ifMissing]

def name : Overwrite → String
  | always => "always"
  | ifMissing => "if-missing"

/-- The mode with exactly this name. -/
def ofName? (name : String) : Option Overwrite :=
  all.find? (·.name = name)

end Overwrite

/-- What became of one artifact. -/
inductive WriteResult where
  | written
  /-- There was a file already. -/
  | skipped
  deriving DecidableEq, Repr

def WriteResult.name : WriteResult → String
  | written => "written"
  | skipped => "skipped"

structure WriteOutcome where
  path : String
  result : WriteResult
  deriving DecidableEq, Repr

inductive WriteError where
  | createDirectory (path : String)
  | writeFile (path : String)
  deriving DecidableEq, Repr

def WriteError.message : WriteError → String
  | createDirectory path => "failed to create directory '" ++ path ++ "'"
  | writeFile path => "failed to write '" ++ path ++ "'"

namespace Disk

/-- Makes the directory at the head of a chain, and first its missing ancestors. -/
def makeDirs : List String → Disk → Except DiskError Unit × Disk
  | [], d => (.error .notFound, d)
  | path :: ancestors, d =>
    if path.isEmpty then (.ok (), d)
    else match d.mkdir path with
      | .ok d => (.ok (), d)
      | .error .notFound =>
        match makeDirs ancestors d with
        | (.error e, d) => (.error e, d)
        | (.ok (), d) =>
          match d.mkdir path with
          | .ok d => (.ok (), d)
          | .error e => (if d.isDir path then .ok () else .error e, d)
      | .error e => (if d.isDir path then .ok () else .error e, d)

/-- Writes a file whose directory exists. -/
def writeHere (path content : String) (d : Disk) : Except WriteError Unit × Disk :=
  match d.write path content with
  | .ok d => (.ok (), d)
  | .error _ => (.error (.writeFile path), d)

/-- Writes a file and first makes its directory. -/
def writeFile (path content : String) (d : Disk) : Except WriteError Unit × Disk :=
  match Path.chain path with
  | _ :: parent :: ancestors =>
    match makeDirs (parent :: ancestors) d with
    | (.ok (), d) => writeHere path content d
    | (.error _, d) => (.error (.createDirectory parent), d)
  | _ => writeHere path content d

end Disk

/-- Writes an artifact below `root`. -/
def Artifact.write (root : String) (mode : Overwrite) (a : Artifact) (d : Disk) :
    Except WriteError WriteResult × Disk :=
  let path := Path.join root a.path
  if mode = .ifMissing && d.exists? path then (.ok .skipped, d)
  else match d.writeFile path a.content with
    | (.ok (), d) => (.ok .written, d)
    | (.error e, d) => (.error e, d)

/-- Writes the artifacts below `root`, in order. -/
def ArtifactSet.write (root : String) (mode : Overwrite) :
    ArtifactSet → Disk → Except WriteError (List WriteOutcome) × Disk
  | [], d => (.ok [], d)
  | a :: rest, d =>
    match a.write root mode d with
    | (.error e, d) => (.error e, d)
    | (.ok result, d) =>
      match ArtifactSet.write root mode rest d with
      | (.error e, d) => (.error e, d)
      | (.ok outcomes, d) => (.ok (⟨Path.join root a.path, result⟩ :: outcomes), d)

end Scaffold
