import CqlBridge.Shell.Disk

/-!
# `CqlBridge.Shell.Workdir` — a working directory held as a value

A `Workdir` is the tree under a run's working directory: each entry is a path of names from the
top and a node, a directory or a file with its text. Every parent of an entry is a directory
entry. Paths are read relative to the top: empty names and `.` are skipped, `..` goes up a level,
and a path that leaves the tree, or starts with `/`, lies outside it: nothing is found there and
creating there succeeds without changing the tree. A path that ends in `/` names a directory.

The three disk operations follow the system's rules:

* looking through a file finds nothing;
* creating directories walks the path from the top: a directory is passed, a missing one is
  created, and a file stops the walk with `File exists` when it is the last name and
  `Not a directory` before that;
* opening a file for appending needs its parent to be a directory (`No such file or directory`,
  `Not a directory`), refuses a directory (`Is a directory`), and keeps a file's text.

`listing` names every entry, sorted, with `/` after directories.
-/

namespace CqlBridge.Shell

/-- A node of the tree. -/
inductive Node where
  | directory
  | file (text : String)
  deriving Inhabited, Repr, DecidableEq

/-- A directory tree: entries by their path of names from the top. -/
structure Workdir where
  entries : List (List String × Node) := []
  deriving Inhabited, Repr

namespace Workdir

/-- The names of a path inside the tree, or `none` for a path outside it. -/
def names (path : String) : Option (List String) :=
  if path.startsWith "/" then none else
  let step (acc : List String) (part : String) : Option (List String) :=
    if part.isEmpty || part == "." then some acc
    else if part == ".." then (if acc.isEmpty then none else some acc.dropLast)
    else some (acc ++ [part])
  List.foldlM step [] (path.splitOn "/")

/-- The node at a path of names. -/
def node? (w : Workdir) (ns : List String) : Option Node :=
  (w.entries.find? (·.1 == ns)).map (·.2)

/-- The proper prefixes of a path of names, shortest first. -/
def parents (ns : List String) : List (List String) :=
  (List.range ns.length).map ns.take

/-- Whether every parent of a path of names is a directory. -/
def parentsAreDirectories (w : Workdir) (ns : List String) : Bool :=
  (parents ns).all fun p => p.isEmpty || w.node? p == some .directory

/-- What stands at a path. -/
def look (w : Workdir) (path : String) : Found :=
  match names path with
  | none => .missing
  | some [] => .directory
  | some ns =>
    if !w.parentsAreDirectories ns then .missing else
    match w.node? ns with
    | some .directory => .directory
    | some (.file text) => if path.endsWith "/" then .missing else .file text
    | none => .missing

/-- Adds an entry. -/
def add (w : Workdir) (ns : List String) (n : Node) : Workdir :=
  { w with entries := w.entries ++ [(ns, n)] }

/-- Creates the directories along a path of names; `done` holds the names walked so far. -/
def walkDirs (w : Workdir) (done : List String) : List String → Except OsError Workdir
  | [] => .ok w
  | n :: rest =>
    let here := done ++ [n]
    match w.node? here with
    | some .directory => walkDirs w here rest
    | some (.file _) => .error (if rest.isEmpty then .alreadyExists else .notDirectory)
    | none => walkDirs (w.add here .directory) here rest

/-- Creates a directory and its missing parents. -/
def makeDirs (w : Workdir) (path : String) : Except OsError Workdir :=
  match names path with
  | none => .ok w
  | some ns => walkDirs w [] ns

/-- Opens a file for appending, creating it empty when missing. -/
def makeFile (w : Workdir) (path : String) : Except OsError Workdir :=
  match names path with
  | none => .ok w
  | some [] => .error .isDirectory
  | some ns =>
    let parentsOk := (parents ns).all fun p => p.isEmpty || w.node? p == some .directory
    let parentMissing := (parents ns).any fun p => !p.isEmpty && w.node? p == none
    if !parentsOk then .error (if parentMissing then .notFound else .notDirectory) else
    match w.node? ns with
    | some .directory => .error .isDirectory
    | some (.file _) => .ok w
    | none => if path.endsWith "/" then .error .isDirectory else .ok (w.add ns (.file ""))

/-- Writes a file, creating its missing parent directories; used to set up a tree. -/
def write (w : Workdir) (path : String) (text : String) : Workdir :=
  match names path with
  | none | some [] => w
  | some ns =>
    let w := match walkDirs w [] ns.dropLast with
      | .ok w => w
      | .error _ => w
    { w with entries := (w.entries.filter (·.1 != ns)) ++ [(ns, .file text)] }

/-- Every entry, sorted, with `/` after directories. -/
def listing (w : Workdir) : List String :=
  let shown := w.entries.map fun (ns, n) =>
    "/".intercalate ns ++ (match n with
      | .directory => "/"
      | .file _ => "")
  shown.mergeSort fun a b => decide (a ≤ b)

/-- The disk operations on a tree held as state. -/
def disk : Disk (StateM Workdir) where
  look path := return (← get).look path
  makeDirs path := modifyGet fun w => match w.makeDirs path with
    | .ok w' => (.ok (), w')
    | .error e => (.error e, w)
  makeFile path := modifyGet fun w => match w.makeFile path with
    | .ok w' => (.ok (), w')
    | .error e => (.error e, w)

end Workdir

end CqlBridge.Shell
