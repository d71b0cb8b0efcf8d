/-!
# `CqlBridge.Shell.Disk` — what the command line asks of the file system

The command line touches the file system in three ways only: it looks at what stands at a path
(nothing, a directory, or a file with its text), it creates a directory with all its missing
parents, and it opens a file for appending, creating it when missing. `Disk m` collects the three
operations in a monad `m`, so that a run can be carried out on a real file system or on a
directory tree held as a value.

The operating-system errors a run can meet are the four below, written as the system names
them, with their numbers: `File exists (os error 17)`.
-/

namespace CqlBridge.Shell

/-- An operating-system error of a file operation. -/
inductive OsError where
  | notFound
  | alreadyExists
  | notDirectory
  | isDirectory
  deriving Inhabited, Repr, DecidableEq

namespace OsError

/-- The error's number. -/
def code : OsError → Nat
  | .notFound => 2
  | .alreadyExists => 17
  | .notDirectory => 20
  | .isDirectory => 21

/-- The system's description of the error. -/
def description : OsError → String
  | .notFound => "No such file or directory"
  | .alreadyExists => "File exists"
  | .notDirectory => "Not a directory"
  | .isDirectory => "Is a directory"

/-- The description with the number: `File exists (os error 17)`. -/
def message (e : OsError) : String :=
  e.description ++ " (os error " ++ toString e.code ++ ")"

end OsError

/-- What stands at a path. -/
inductive Found where
  | missing
  | directory
  | file (text : String)
  deriving Inhabited, Repr, DecidableEq

/-- The file operations of a run, in the monad `m`. -/
structure Disk (m : Type → Type) where
  /-- What stands at a path; a path through a file finds nothing. -/
  look : String → m Found
  /-- Creates a directory and its missing parents; a directory already there is fine. -/
  makeDirs : String → m (Except OsError Unit)
  /-- Opens a file for appending, creating it empty when missing. -/
  makeFile : String → m (Except OsError Unit)

/-- Joins a file name to a directory: the name alone under an empty directory or for an absolute
name, without a second `/` after a directory that ends in one. -/
def joinPath (dir name : String) : String :=
  if dir.isEmpty || name.startsWith "/" then name
  else if dir.endsWith "/" then dir ++ name
  else dir ++ "/" ++ name

end CqlBridge.Shell
