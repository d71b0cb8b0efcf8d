import CqlBridge.Shell.Env
import CqlBridge.Yaml.Document

/-!
# `CqlBridge.Shell.Config` — the settings of the command line

The command line reads its settings from a YAML file, with these keys and defaults:

| key | default | meaning |
|---|---|---|
| `logging.level` | `info` | which events are logged |
| `logging.format` | `pretty` | `pretty`, `json` or `compact` |
| `logging.output` | `stderr` | `stderr`, `file` or `both` |
| `logging.directory` | `./logs` | where log files go |
| `cassandra.connection` | empty | the attach string of the cluster; empty for none |
| `duckdb.path` | none | the database file; in memory without one |

Each section and each key may be left out, and an empty section keeps its defaults. Other keys
are ignored; a key given twice is refused. Every value is read as a text, numbers and booleans
included (`path: 7` names the file `7`); `duckdb.path` may also be null.

Environment variables override the file: `CASSDUCK_CONNECTION`, `CASSDUCK_DUCKDB_PATH` (empty
for in memory), and `RUST_LOG`, `LOG_FORMAT`, `LOG_OUTPUT`, `LOG_DIR` for the four logging
keys. The logging settings are then written back to those four variables, where the logger
reads them.
-/

namespace CqlBridge.Shell

/-- How and where the command line logs. -/
structure Logging where
  level : String := "info"
  format : String := "pretty"
  output : String := "stderr"
  directory : String := "./logs"
  deriving Inhabited, Repr

/-- The settings of the command line. -/
structure Config where
  logging : Logging := {}
  /-- The attach string of the cluster; empty for none. -/
  connection : String := ""
  /-- The database file; in memory when absent. -/
  database : Option String := none
  deriving Inhabited, Repr

namespace Config

open Yaml

/-- Reads the `logging` section. -/
def readLogging (d : Document) : Reader Logging :=
  d.readRecord "struct LoggingConfig" ["level", "format", "output", "directory"] {}
    fun l key pos path => do
      let (v, next) ← d.readText "a string" pos path
      let l := match key with
        | "level" => { l with level := v }
        | "format" => { l with format := v }
        | "output" => { l with output := v }
        | _ => { l with directory := v }
      return (l, next)

/-- Reads the `cassandra` section: its attach string. -/
def readCluster (d : Document) : Reader String :=
  d.readRecord "struct CassandraConfig" ["connection"] "" fun _ _ pos path =>
    d.readText "a string" pos path

/-- Reads the `duckdb` section: its database file. -/
def readDatabase (d : Document) : Reader (Option String) :=
  d.readRecord "struct DuckdbConfig" ["path"] none fun _ _ pos path => d.readOptionalText pos path

/-- Reads the whole settings file. -/
def read (d : Document) : Reader Config :=
  d.readRecord "struct Config" ["logging", "cassandra", "duckdb"] {} fun c key pos path =>
    match key with
    | "logging" => do
      let (l, next) ← readLogging d pos path
      return ({ c with logging := l }, next)
    | "cassandra" => do
      let (conn, next) ← readCluster d pos path
      return ({ c with connection := conn }, next)
    | _ => do
      let (db, next) ← readDatabase d pos path
      return ({ c with database := db }, next)

/-- The settings a YAML text gives. -/
def ofYaml (text : String) : Except DecodeError Config :=
  Yaml.decode text read

/-- The settings with the environment's overrides applied. -/
def override (env : Env) (c : Config) : Config :=
  let pick (name old : String) := (env.get? name).getD old
  { logging :=
      { level := pick "RUST_LOG" c.logging.level
        format := pick "LOG_FORMAT" c.logging.format
        output := pick "LOG_OUTPUT" c.logging.output
        directory := pick "LOG_DIR" c.logging.directory }
    connection := pick "CASSDUCK_CONNECTION" c.connection
    database := match env.get? "CASSDUCK_DUCKDB_PATH" with
      | some "" => none
      | some p => some p
      | none => c.database }

/-- The four logging variables, as the settings set them. -/
def loggingVars (c : Config) : List (String × String) :=
  [("RUST_LOG", c.logging.level), ("LOG_FORMAT", c.logging.format),
   ("LOG_OUTPUT", c.logging.output), ("LOG_DIR", c.logging.directory)]

end Config

end CqlBridge.Shell
