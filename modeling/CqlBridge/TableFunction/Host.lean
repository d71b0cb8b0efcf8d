import CqlBridge.Bench
import CqlBridge.Connect
import CqlBridge.Sql.Catalog
import CqlBridge.Sql.Run
import CqlBridge.Sql.Text
import CqlBridge.TableFunction.Chunk

/-!
# `CqlBridge.TableFunction.Host` — the bridge's table functions, as the engine sees them

Three table functions over a bench:

| function | positional | named |
|---|---|---|
| `cassandra_scan` | `'keyspace.table'` | `connection`, `catalog`, the connection options, `filter` |
| `cassandra_query` | a statement | `connection`, `catalog`, the connection options |
| `cassandra_attach` | an attach string | `name` |

**Binding.** With `catalog := 'name'` (not blank) a scan binds through that attached catalog:
the table through the catalog's schema and table lookups, a statement by describing it on the
catalog's cluster. Without it the function builds its own connection settings — from the
environment, then the `connection` string, then each connection option given, in the fixed
order of `textOptions`, `integerOptions`, `booleanOptions` — and connects, which fails here.
`cassandra_attach` only checks that its attach string reads, and answers one `success` column.

**Scanning.** The engine calls a bound scan again and again with a chunk (`fillChunk`): the
first call makes the executor, each call pulls a batch of up to 2048 rows and copies it into the
chunk (`writeBatch`), and the engine stops at the first empty chunk and drops the executor, which
releases its cursor. An attach runs only when scanned: it checks that the name (default
`cassandra`, also for a blank name) is free, reads the attach string, and connects, which fails.

Failures while binding are binder errors; failures while scanning are invalid-input errors.

Two pieces here are the engine's own behaviour, modelled as the bridge relies on it: how the
engine reads a chunk slot back as a value (`Slot.toVal`), and the text it gives the value of a
parameter (`BridgeCall.valueText`).
-/

namespace CqlBridge

open Sql

/-- The engine value of a slot in a column of relational type `t`: 32-bit integers of a date
column are days, 64-bit integers of a time or timestamp column microseconds, and a hugeint is
read back as the UUID it stores. -/
def Slot.toVal (t : SqlType) : Slot → Sql.Val
  | .bool b => .bool b
  | .i8 v => .int v.toInt
  | .i16 v => .int v.toInt
  | .i32 v => if t == .date then .date v.toInt else .int v.toInt
  | .i64 v =>
    match t with
    | .time => .time v.toInt
    | .timestamptz => .stamp v.toInt
    | _ => .int v.toInt
  | .f32 b => .float b
  | .f64 b => .double b
  | .str s => .text s
  | .bytes bs => .blob bs
  | .interval m d us => .interval m.toInt d.toInt us.toInt
  | .hugeint h => .uuid h.toUuid.toNat

/-- The rows of a chunk of the given column types, as the engine reads them. -/
def Chunk.rows (ch : Chunk) (types : List SqlType) : List Sql.Row :=
  (List.range ch.size).map fun r =>
    (ch.vectors.zip types).map fun (v, t) => if v.valid r then (v.slot r).toVal t else .null

/-- What a bound call of the bridge's table functions does when scanned. -/
inductive BridgeCall where
  /-- Reads rows through bound data. -/
  | rows (data : BindData)
  /-- Attaches a catalog. -/
  | attach (name conn : String)

namespace BridgeCall

/-- The connection options that take text. -/
def textOptions : List String :=
  ["host", "contact_points", "keyspace", "username", "password", "consistency", "certfile",
   "cacert", "usercert", "userkey", "certfile_b64", "usercert_b64", "userkey_b64", "client_id",
   "client_secret", "astra_host", "astra_dc", "astra_ca_cert", "astra_client_cert",
   "astra_client_key", "astra_ca_cert_b64", "astra_client_cert_b64", "astra_client_key_b64"]

/-- The connection options that take an integer. -/
def integerOptions : List String := ["port", "astra_port"]

/-- The connection options that take a boolean. -/
def booleanOptions : List String := ["ssl", "use_ssl", "verify_peer"]

/-- The named parameters every connecting function takes. -/
def connectionParams : List (String × Ty) :=
  [("connection", .varchar), ("catalog", .varchar)] ++
    textOptions.map (·, Ty.varchar) ++ integerOptions.map (·, Ty.integer) ++
    booleanOptions.map (·, Ty.boolean)

/-- The functions. -/
def functions : List TableFn :=
  [⟨"cassandra_scan", [.varchar], connectionParams ++ [("filter", .varchar)]⟩,
   ⟨"cassandra_query", [.varchar], connectionParams⟩,
   ⟨"cassandra_attach", [.varchar], [("name", .varchar)]⟩]

/-- A parameter value as text. -/
def valueText : Val → String
  | .null => "NULL"
  | .text s => s
  | .bool b => if b then "true" else "false"
  | .int i => Number.intText i
  | v => valText .varchar v

/-- A named parameter's text, if given. -/
def named? (named : List (String × Val)) (key : String) : Option String :=
  (named.find? (·.1 == key)).map (valueText ·.2)

/-- A named parameter's text, if given and not blank. -/
def textParam? (named : List (String × Val)) (key : String) : Option String :=
  match named? named key with
  | some v => if (Text.trim v).isEmpty then none else some v
  | none => none

/-- A binder error with a fault's words. -/
def bindFault (f : Fault) : SqlError := ⟨.binder, f.message, none⟩

/-- The error of a failed bench step while binding. -/
def bindStepError : StepError → SqlError
  | .stop (.fault f) => bindFault f
  | .stop .crash => ⟨.crash, "", none⟩
  | .gone => ⟨.binder, "session detached", none⟩
  | .noScan _ => ⟨.binder, "no such scan", none⟩

/-- The connection settings of a call without a catalog. -/
def connectionSettings (env : String → Option String) (named : List (String × Val)) :
    Except ConfigFault Settings := do
  let s ← Settings.ofEnv env
  let s ← match named? named "connection" with
    | some text =>
      match s.applyAttach text with
      | (s, none) => pure s
      | (_, some e) => throw e
    | none => pure s
  (textOptions ++ integerOptions ++ booleanOptions).foldlM (fun s key =>
    match named? named key with
    | some v => s.put key v
    | none => pure s) s

/-- Connecting with the call's own settings: always a binder error here. -/
def connectOwn (env : String → Option String) (named : List (String × Val)) : SqlError :=
  match connectionSettings env named with
  | .ok s => bindFault s.connectFault
  | .error e => bindFault (.configuration e)

/-- The engine columns of bound data. -/
def columnsOf (d : BindData) : List Column :=
  d.columns.map fun c => ⟨c.name, Ty.ofSqlType c.sqlType⟩

/-- Binds a call. -/
def bind (env : String → Option String) (fn : String) (pos : List Val)
    (named : List (String × Val)) (b : Bench) :
    Bench × Except SqlError (List Column × BridgeCall) :=
  let first := valueText (pos.head?.getD .null)
  let bound := fun (r : Bench × Except StepError BindData) =>
    match r with
    | (b, .ok d) => (b, .ok (columnsOf d, BridgeCall.rows d))
    | (b, .error e) => (b, .error (bindStepError e))
  match fn with
  | "cassandra_scan" =>
    match TableName.parse first with
    | .error e => (b, .error (bindFault (.configuration e)))
    | .ok t =>
      let filter := textParam? named "filter"
      match textParam? named "catalog" with
      | some cat => bound (b.bindCatalogTable cat t filter)
      | none => (b, .error (connectOwn env named))
  | "cassandra_query" =>
    match textParam? named "catalog" with
    | some cat => bound (b.bindCatalogQuery cat first)
    | none => (b, .error (connectOwn env named))
  | _ =>
    match Settings.ofAttach first with
    | .error e => (b, .error (bindFault (.configuration e)))
    | .ok _ =>
      let name := (textParam? named "name").getD defaultCatalogName
      (b, .ok ([⟨"success", .boolean⟩], .attach name first))

/-- More rows than any cursor of the cluster can hold: a bound on the pulls of a scan. -/
def rowBound (c : Cluster) : Nat :=
  c.tables.foldl (fun n t => n + t.rows.length) 0 +
    c.canned.foldl (fun n (_, r) => n + r.rows.length) 0

/-- Why filling a chunk fails: the scan's failure, or the copy's. -/
inductive FillError where
  | scan (e : ScanError)
  | chunk (e : ChunkError)

/-- Pulls up to a vector's worth of rows into the chunk `out`. The executor is made from the
bound data on the first call, and kept in `exec` for the later ones. -/
def fillChunk (d : BindData) (exec : Option Scan) (c : Cluster) (live : Bool) (out : Chunk) :
    Option Scan × Cluster × Chunk × Except FillError Unit :=
  match (exec.getD d.scan).nextBatch c live batchLimit with
  | (s, c, .ok batch) =>
    match writeBatch batch d.types out with
    | (out, .ok ()) => (some s, c, out, .ok ())
    | (out, .error e) => (some s, c, out, .error (.chunk e))
  | (s, c, .error e) => (some s, c, out, .error (.scan e))

/-- The engine's loop over a bound call: it fills the chunk, reset before each call, until a
call leaves it empty; the rows read so far are `acc`. -/
def drain (d : BindData) (live : Bool) : Nat → Option Scan → Cluster → Chunk → List Sql.Row →
    Option Scan × Cluster × Except FillError (List Sql.Row)
  | 0, exec, c, _, acc => (exec, c, .ok acc)
  | fuel + 1, exec, c, out, acc =>
    match fillChunk d exec c live out.reset with
    | (exec, c, out, .ok ()) =>
      if out.size == 0 then (exec, c, .ok acc) else drain d live fuel exec c out (acc ++ out.rows d.types)
    | (exec, c, _, .error e) => (exec, c, .error e)

/-- The error of a failure while scanning. -/
def scanStop : ScanError → SqlError
  | .client (.fault f) => ⟨.invalidInput, f.message, none⟩
  | .client .crash => ⟨.crash, "", none⟩
  | .arrow e => ⟨.invalidInput, "Arrow error: " ++ e.message, none⟩

/-- The error of a failure while filling a chunk. -/
def fillStop : FillError → SqlError
  | .scan e => scanStop e
  | .chunk .crash => ⟨.crash, "", none⟩
  | .chunk e => ⟨.invalidInput, e.message, none⟩

/-- Scans a bound call. -/
def scan (call : BridgeCall) (b : Bench) : Bench × Except SqlError (List Sql.Row) :=
  match call with
  | .rows d =>
    let (exec, c, r) :=
      drain d b.alive (rowBound b.cluster + 2) none b.cluster (Chunk.empty d.columns.length) []
    let c := match exec with
      | some s => s.release c
      | none => c
    ({ b with cluster := c }, r.mapError fillStop)
  | .attach name conn =>
    let fault : Fault := match b.registry.checkFree name with
      | .error f => f
      | .ok () => Settings.attachFault conn
    (b, .error ⟨.invalidInput, fault.message, none⟩)

end BridgeCall

/-- The bridge's table functions over a bench; `env` reads the environment. -/
def bridgeHost (env : String → Option String) : Host Bench BridgeCall where
  functions := BridgeCall.functions
  bind := BridgeCall.bind env
  scan := BridgeCall.scan

/-- Runs the statements of a text on a database, with the bridge's table functions over the
bench; the bench and the database come back changed by what ran, also when a statement
fails. -/
def Bench.runSql (env : String → Option String) (b : Bench) (db : Database) (text : String) :
    Bench × Database × Except SqlError Relation :=
  match runText (bridgeHost env) text ⟨b, db⟩ with
  | .ok r s => (s.ext, s.db, .ok r)
  | .error e s => (s.ext, s.db, .error e)

end CqlBridge
