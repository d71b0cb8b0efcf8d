import CqlBridge.Catalog.Registry
import CqlBridge.TableFunction.Bind

/-!
# `CqlBridge.Bench` — one in-memory cluster with the scans and catalogs that use it

A bench holds a cluster, the scans opened on it (numbered from 0 in the order they were
opened), and the catalogs attached over it. The cluster stays alive while anyone holds it: the
bench itself until it lets go (`detach`), a scan that owns its handle and is not dropped, or an
attached catalog. Scans and catalog entries that hold the cluster only as attached do not keep
it alive.

Each operation returns the new bench with its result. Besides the faults of the operations
themselves, a step can find the cluster gone, or name a scan that does not exist.
-/

namespace CqlBridge

/-- Why a step of a bench has no result. -/
inductive StepError where
  /-- The operation failed, or crashed. -/
  | stop (s : Stop)
  /-- Nobody holds the cluster any more. -/
  | gone
  /-- No open scan has this number. -/
  | noScan (id : Nat)

/-- A cluster with its scans and catalogs. -/
structure Bench where
  cluster : Cluster
  /-- Whether the bench itself still holds the cluster. -/
  held : Bool := true
  /-- Scans by number; a dropped scan leaves `none`. -/
  scans : List (Option Scan) := []
  registry : Registry := {}

namespace Bench

/-- Whether anyone still holds the cluster. -/
def alive (b : Bench) : Bool :=
  b.held || b.scans.any (fun s => match s with
    | some s => s.hold == .owned
    | none => false) || !b.registry.catalogs.isEmpty

/-- The open cursors of the cluster, while it is alive. -/
def openCursors? (b : Bench) : Option Nat := if b.alive then some b.cluster.openCursors else none

/-- Runs an operation on the cluster, if it is alive. -/
def onCluster {α : Type} (b : Bench) (f : Cluster → Cluster × Except Stop α) :
    Bench × Except StepError α :=
  if b.alive then
    let (c, r) := f b.cluster
    ({ b with cluster := c }, r.mapError .stop)
  else (b, .error .gone)

/-- A pure result of a step. -/
def give {α : Type} (b : Bench) (a : α) : Bench × Except StepError α := (b, .ok a)

/-- A fault of a step. -/
def fail {α : Type} (b : Bench) (f : Fault) : Bench × Except StepError α := (b, .error (.stop (.fault f)))

/-- The keyspaces of the cluster. -/
def listKeyspaces (b : Bench) : Bench × Except StepError (List KeyspaceName) :=
  b.onCluster Discovery.listKeyspaces

/-- The tables of a keyspace; an empty keyspace name is refused. -/
def listTables (b : Bench) (keyspace : String) : Bench × Except StepError (List TableName) :=
  match KeyspaceName.make keyspace with
  | .ok k => b.onCluster (Discovery.listTables · k)
  | .error e => b.fail (.configuration e)

/-- Whether a keyspace exists. -/
def keyspaceExists (b : Bench) (name : String) : Bench × Except StepError Bool :=
  b.onCluster (Discovery.keyspaceExists · name)

/-- Whether a table exists. -/
def tableExists (b : Bench) (t : TableName) : Bench × Except StepError Bool :=
  b.onCluster (Discovery.tableExists · t)

/-- The columns of a table. -/
def describeTable (b : Bench) (t : TableName) (s : Strategy) :
    Bench × Except StepError (List ColumnSpec) :=
  b.onCluster (Discovery.describeTable · t s)

/-- The columns of a statement's result. -/
def describeQuery (b : Bench) (q : String) : Bench × Except StepError (List ColumnSpec) :=
  b.onCluster (Discovery.describeQuery · q)

/-- Each described column with its type text read and written again. -/
def columnTypes (b : Bench) (t : TableName) : Bench × Except StepError (List (String × String)) :=
  b.onCluster fun c =>
    match Discovery.describeTable c t .auto with
    | (c, .ok cols) =>
      (c, cols.mapM fun col => match StoreType.read? col.sourceType with
        | some ty => .ok (col.name, ty.render)
        | none => .error .crash)
    | (c, .error e) => (c, .error e)

/-- Runs a statement. -/
def execute (b : Bench) (q : String) (params : List String) : Bench × Except StepError ResultSet :=
  b.onCluster (·.execute q params)

/-- The scan numbered `id`. -/
def scan? (b : Bench) (id : Nat) : Except StepError Scan :=
  match b.scans[id]? with
  | some (some s) => .ok s
  | _ => .error (.noScan id)

/-- Replaces the scan numbered `id`. -/
def setScan (b : Bench) (id : Nat) (s : Option Scan) : Bench :=
  { b with scans := b.scans.set id s }

/-- Adds a scan under the next number. -/
def addScan (b : Bench) (s : Scan) : Bench × Nat :=
  ({ b with scans := b.scans ++ [some s] }, b.scans.length)

/-- Opens a scan of a source; without columns, the columns are described first. -/
def openScan (b : Bench) (source : ScanSource) (columns : Option (List ScanColumn))
    (hold : Hold) : Bench × Except StepError (Nat × Scan) :=
  if !b.alive then (b, .error .gone) else
  let described : Cluster × Except Stop (List ScanColumn) := match columns with
    | some cols => (b.cluster, .ok cols)
    | none =>
      let (c, r) := match source with
        | .table t _ => Discovery.describeTable b.cluster t .auto
        | .query q => Discovery.describeQuery b.cluster q
      (c, r.map (·.map (·.toScanColumn)))
  match described with
  | (c, .ok cols) =>
    let s : Scan := ⟨hold, source, cols, .unstarted, 0⟩
    let (b, id) := { b with cluster := c }.addScan s
    (b, .ok (id, s))
  | (c, .error e) => ({ b with cluster := c }, .error (.stop e))

/-- A pull's failure as a step's. A bench has no answer for a refusal of the columnar format,
which no pull meets, and ends as a crash there. -/
def ofScanError : ScanError → StepError
  | .client s => .stop s
  | .arrow _ => .stop .crash

/-- Pulls a batch from a scan. -/
def nextBatch (b : Bench) (id : Nat) (n : Nat) : Bench × Except StepError Batch :=
  match b.scan? id with
  | .error e => (b, .error e)
  | .ok s =>
    let (s, c, r) := s.nextBatch b.cluster b.alive n
    ({ b.setScan id (some s) with cluster := c }, r.mapError ofScanError)

/-- Closes a scan. -/
def close (b : Bench) (id : Nat) : Bench × Except StepError Scan :=
  match b.scan? id with
  | .error e => (b, .error e)
  | .ok s =>
    let (s, c) := s.close b.cluster
    ({ b.setScan id (some s) with cluster := c }, .ok s)

/-- Drops a scan, releasing its cursor. -/
def dropScan (b : Bench) (id : Nat) : Bench × Except StepError Unit :=
  match b.scan? id with
  | .error e => (b, .error e)
  | .ok s => ({ b.setScan id none with cluster := s.release b.cluster }, .ok ())

/-- The bench lets go of the cluster; whether the cluster is still alive. -/
def detach (b : Bench) : Bench × Bool :=
  let b := { b with held := false }
  (b, b.alive)

/-- The statements run so far. -/
def executed (b : Bench) : Bench × Except StepError (List String) :=
  b.onCluster fun c => (c, .ok c.executed)

/-- The statements prepared so far. -/
def prepared (b : Bench) : Bench × Except StepError (List String) :=
  b.onCluster fun c => (c, .ok c.prepared)

/-- Attaches a catalog over the cluster. -/
def attach (b : Bench) (name conn : String) : Bench × Except StepError Catalog :=
  match b.registry.attach name conn with
  | .ok (r, cat) => ({ b with registry := r }, .ok cat)
  | .error f => b.fail f

/-- Detaches a catalog; whether it was attached. -/
def detachCatalog (b : Bench) (name : String) : Bench × Bool :=
  let (r, was) := b.registry.detach name
  ({ b with registry := r }, was)

/-- The catalog attached as `name`. -/
def catalog (b : Bench) (name : String) : Except StepError Catalog :=
  (b.registry.find name).mapError (.stop ∘ .fault)

/-- Runs an operation through an attached catalog, which keeps the cluster alive. -/
def onCatalog {α : Type} (b : Bench) (name : String)
    (f : Catalog → Cluster → Cluster × Except Stop α) : Bench × Except StepError α :=
  match b.catalog name with
  | .error e => (b, .error e)
  | .ok cat =>
    let (c, r) := f cat b.cluster
    ({ b with cluster := c }, r.mapError .stop)

/-- The schemas of a catalog. -/
def listSchemas (b : Bench) (cat : String) : Bench × Except StepError (List SchemaEntry) :=
  b.onCatalog cat fun _ c => Catalog.listSchemas c

/-- A schema of a catalog. -/
def lookupSchema (b : Bench) (cat schema : String) : Bench × Except StepError SchemaEntry :=
  b.onCatalog cat fun _ c => Catalog.lookupSchema c schema

/-- The tables of a schema of a catalog. -/
def schemaTables (b : Bench) (cat schema : String) : Bench × Except StepError (List TableName) :=
  b.onCatalog cat fun _ c =>
    match Catalog.lookupSchema c schema with
    | (c, .ok s) => s.listTables c
    | (c, .error e) => (c, .error e)

/-- A table of a schema of a catalog. -/
def lookupTable (b : Bench) (cat schema table : String) : Bench × Except StepError TableEntry :=
  b.onCatalog cat fun _ c =>
    match Catalog.lookupSchema c schema with
    | (c, .ok s) => s.lookupTable c table
    | (c, .error e) => (c, .error e)

/-- Opens a scan of a catalog's table. -/
def catalogScan (b : Bench) (cat schema table : String) (filter : Option String) :
    Bench × Except StepError (Nat × Scan) :=
  match b.lookupTable cat schema table with
  | (b, .ok e) =>
    let s := e.scan filter
    let (b, id) := b.addScan s
    (b, .ok (id, s))
  | (b, .error e) => (b, .error e)

/-- A write through a catalog: refused after the lookups it needs. -/
def write (b : Bench) (cat : String) (what : CatalogWrite) (schema table : String) :
    Bench × Except StepError Unit :=
  b.onCatalog cat fun _ c =>
    let refused := fun (op : String) => Except.error (Stop.fault (refuse op))
    match what with
    | .createSchema => (c, refused ("CREATE SCHEMA " ++ schema))
    | .dropSchema => (c, refused ("DROP SCHEMA " ++ schema))
    | .createTable | .createTableAs | .dropTable =>
      match Catalog.lookupSchema c schema with
      | (c, .error e) => (c, .error e)
      | (c, .ok s) =>
        let qualified := s.keyspace.name ++ "." ++ table
        (c, refused (match what with
          | .createTable => "CREATE TABLE " ++ qualified
          | .createTableAs => "CREATE TABLE " ++ qualified ++ " AS"
          | _ => "DROP TABLE " ++ qualified))
    | .insert | .update | .delete =>
      match Catalog.lookupSchema c schema with
      | (c, .error e) => (c, .error e)
      | (c, .ok s) =>
        match s.lookupTable c table with
        | (c, .error e) => (c, .error e)
        | (c, .ok e) =>
          let q := e.table.qualified
          (c, refused (match what with
            | .insert => "INSERT INTO " ++ q
            | .update => "UPDATE " ++ q
            | _ => "DELETE FROM " ++ q))

/-- Binds a table through an owned handle. -/
def bindTable (b : Bench) (t : TableName) (filter : Option String) :
    Bench × Except StepError BindData :=
  b.onCluster (CqlBridge.bindTable · t filter)

/-- Binds a statement through an owned handle. -/
def bindQuery (b : Bench) (q : String) : Bench × Except StepError BindData :=
  b.onCluster (CqlBridge.bindQuery · .owned q)

/-- Binds a table of a catalog. -/
def bindCatalogTable (b : Bench) (cat : String) (t : TableName) (filter : Option String) :
    Bench × Except StepError BindData :=
  b.onCatalog cat fun _ c => CqlBridge.bindCatalogTable c t filter

/-- Binds a statement through a catalog's attached handle. -/
def bindCatalogQuery (b : Bench) (cat : String) (q : String) : Bench × Except StepError BindData :=
  b.onCatalog cat fun _ c => CqlBridge.bindQuery c .attached q

end Bench

end CqlBridge
