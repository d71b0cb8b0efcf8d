import CqlBridge.Shell.Config
import CqlBridge.Shell.DotEnv
import CqlBridge.Shell.Invocation
import CqlBridge.Shell.Report
import CqlBridge.Shell.Disk
import CqlBridge.TableFunction.Host
import CqlBridge.Settings.Masked
import CqlBridge.Sql.Cells

/-!
# `CqlBridge.Shell.Run` — one run of the command line

A run goes through these steps, and the first that fails ends it:

1. A settings file `.env` in the working directory sets the variables it names that are not set
   already (`Shell.DotEnv`).
2. The arguments are read (`Shell.Invocation`).
3. The settings file named by `--config` is read when something stands there, else the defaults
   hold; the environment overrides either (`Shell.Config`). A failure is reported under
   `loading PATH`, with the reason and its cause.
4. The logging settings are written back to the environment. Logging to a file (`file` or `both`)
   creates the log directory with its parents and opens `cassduck.log.DATE` in it; a directory
   that cannot be created fails the run, a log file that cannot be opened aborts it.
5. With an attach string set, the cluster is attached as `cassandra`; no cluster answers here,
   so this fails, reported under `attaching` and the string with its secrets masked. The catalog
   summary needs an attach string.
6. The SQL text opens the database — in memory, or a file: a missing file is created, an empty
   one is a new database, and any other file is refused — and runs on it. Each row of the last
   statement's result is printed as one JSON object with sorted keys. A result with a column of
   the NULL type and at least one row aborts the run.

A run ends in success (exit code 0), a failure (1) reported on the error stream, or an abort
(101).
-/

namespace CqlBridge.Shell

/-- How a run ended, other than in success. -/
inductive Stop where
  /-- An error reported as `Error: …`. -/
  | failure (f : Failure)
  /-- An abort, with its message. -/
  | abort (message : String)
  deriving Inhabited, Repr

/-- What a run shows: its standard output and how it ended (`none` for success). -/
structure Outcome where
  stdout : String := ""
  stop : Option Stop := none
  deriving Inhabited, Repr

namespace Outcome

/-- The exit code. -/
def code (o : Outcome) : Nat :=
  match o.stop with
  | none => 0
  | some (.failure _) => 1
  | some (.abort _) => 101

/-- The error stream. -/
def stderr (o : Outcome) : String :=
  match o.stop with
  | none => ""
  | some (.failure f) => f.render
  | some (.abort m) => "thread 'main' panicked at " ++ m ++ "\n"

end Outcome

/-- Where a run takes place: the absolute name of its working directory, and the date that
names the day's log file. -/
structure Place where
  cwd : String
  date : String
  deriving Inhabited, Repr

/-- The cause the database engine gives under each of its errors. -/
def engineCause : String := "Error code 1: Unknown error code"

/-- A failure of the database engine. -/
def engineFailure (message : String) : Stop := .failure ⟨message, [engineCause]⟩

section

variable {m : Type → Type} [Monad m]

/-- Loads `.env` from the working directory when it is a file. -/
def loadDotEnv (disk : Disk m) (env : Env) : ExceptT Stop m Env := do
  match ← disk.look ".env" with
  | .file text =>
    match env.loadDotEnv text with
    | .ok env => return env
    | .error msg => throw (.abort msg)
  | _ => return env

/-- Reads the settings at `path`, or the defaults when nothing stands there; the environment
overrides both. -/
def loadConfig (disk : Disk m) (env : Env) (path : String) : ExceptT Stop m Config := do
  let fail (reason cause : String) : Stop := .failure ⟨"loading " ++ path, [reason, cause]⟩
  match ← disk.look path with
  | .missing => return Config.override env {}
  | .directory =>
    let e := OsError.isDirectory.message
    throw (fail ("Failed to read config file: " ++ e) e)
  | .file text =>
    match Config.ofYaml text with
    | .ok c => return c.override env
    | .error e => throw (fail ("Failed to parse YAML: " ++ e.render) e.render)

/-- Writes the logging settings into the environment. -/
def exportLogging (env : Env) (c : Config) : Except Stop Env :=
  c.loggingVars.foldlM (fun env (k, v) =>
    if v.contains '\x00' then .error (.abort ("environment variable value contains a NUL: " ++ k))
    else .ok (env.set k v)) env

/-- Starts logging: to a file, the directory is created and the day's log file opened. -/
def startLogging (disk : Disk m) (place : Place) (l : Logging) : ExceptT Stop m Unit := do
  if l.output == "file" || l.output == "both" then
    match ← disk.makeDirs l.directory with
    | .error e => throw (.failure ⟨e.message, []⟩)
    | .ok () =>
      match ← disk.makeFile (joinPath l.directory ("cassduck.log." ++ place.date)) with
      | .error e =>
        throw (.abort ("initializing rolling file appender failed: " ++ e.message))
      | .ok () => return ()

/-- Attaching the configured cluster, which fails. -/
def attachFailure (conn : String) : Stop :=
  .failure ⟨"attaching " ++ redact conn, [(Settings.attachFault conn).message]⟩

/-- Opens the database file at `path`, if any. -/
def openDatabase (disk : Disk m) (place : Place) : Option String → ExceptT Stop m Unit
  | none => return ()
  | some path =>
    if path.isEmpty || path.startsWith ":memory:" then return () else do
    let shown := if path.startsWith "/" then path else place.cwd ++ "/" ++ path
    match ← disk.look path with
    | .directory =>
      throw (engineFailure ("IO Error: Could not read from file \"" ++ shown ++ "\": " ++
        OsError.isDirectory.description))
    | .file text =>
      if text.isEmpty then return ()
      else throw (engineFailure ("IO Error: The file \"" ++ shown ++
        "\" exists, but it is not a valid DuckDB database file!"))
    | .missing =>
      match ← disk.makeFile path with
      | .ok () => return ()
      | .error e =>
        throw (engineFailure ("IO Error: Cannot open file \"" ++ shown ++ "\": " ++ e.description))

/-- Runs a SQL text on a new database and writes the last result's rows, one JSON object a
line. -/
def runQuery (env : Env) (text : String) : Except Stop String :=
  match ({ cluster := {} } : Bench).runSql env.get? {} text with
  | (_, _, .error e) =>
    if e.kind == .crash then .error (.abort "the cluster session failed")
    else .error (engineFailure (e.render text))
  | (_, _, .ok rel) =>
    if !rel.rows.isEmpty && rel.columns.any (fun c => Sql.Ty.beq c.ty .null) then
      .error (.abort "a column of the NULL type has no client value")
    else .ok (String.join (rel.rows.map fun row => (Sql.rowObject rel.columns row).render ++ "\n"))

/-- The steps of a run, up to its standard output. -/
def steps (disk : Disk m) (place : Place) (args : List String) (env : Env) :
    ExceptT Stop m String := do
  let env ← loadDotEnv disk env
  let inv ← match Invocation.ofArgs args with
    | .ok i => pure i
    | .error msg => throw (.failure ⟨msg, []⟩)
  let config ← loadConfig disk env inv.config
  let env ← ExceptT.mk (pure (exportLogging env config))
  startLogging disk place config.logging
  match inv.command with
  | .catalog _ =>
    if config.connection.isEmpty then
      throw (.failure
        ⟨"no Cassandra connection configured (cassandra.connection or CASSDUCK_CONNECTION)", []⟩)
    throw (attachFailure config.connection)
  | .sql text =>
    if !config.connection.isEmpty then throw (attachFailure config.connection)
    openDatabase disk place config.database
    ExceptT.mk (pure (runQuery env text))

/-- Runs the command line with these arguments and environment. -/
def run (disk : Disk m) (place : Place) (args : List String) (env : Env) : m Outcome := do
  match ← (steps disk place args env).run with
  | .ok out => return { stdout := out }
  | .error s => return { stop := some s }

end

end CqlBridge.Shell
