import CqlBridge.Discovery
import CqlBridge.Scan.Shown
import CqlBridge.Settings.Masked

/-!
# `CqlBridge.Catalog.Basic` — a cluster attached as a catalog of schemas and tables

A catalog is a name, the attach string with its secrets masked (its *path*), and the settings
read from that string. Its schemas are the cluster's keyspaces, listed live; a schema's tables
are described on lookup (`Strategy.auto`) and carry their primary key. Scans started from a
table hold the cluster only as attached, so they fail once the catalog is gone.

The catalog reads only: creating or dropping schemas and tables, and inserting, updating or
deleting rows, are refused as unsupported, after the lookups they need.
-/

namespace CqlBridge

open Text (recordText listText quoted)

/-- The type name of every catalog here. -/
def catalogType : String := "cassandra"

/-- An attached catalog. -/
structure Catalog where
  name : String
  /-- The attach string with secrets masked. -/
  path : String
  settings : Settings

/-- A schema of a catalog: one keyspace. -/
structure SchemaEntry where
  keyspace : KeyspaceName

/-- A described table of a catalog. -/
structure TableEntry where
  table : TableName
  columns : List ColumnSpec
  primaryKey : List String

namespace Catalog

/-- A catalog named `name` over the settings of an attach string. -/
def make (name conn : String) : Except ConfigFault Catalog :=
  (Settings.ofAttach conn).map fun s => ⟨name, redact conn, s⟩

/-- The catalog in debugging form. -/
def debugText (c : Catalog) : String :=
  recordText "CassandraCatalog" [("name", quoted c.name), ("path", quoted c.path)]

/-- The schemas, one per keyspace of the cluster. -/
def listSchemas (c : Cluster) : Cluster × Except Stop (List SchemaEntry) :=
  let (c, r) := Discovery.listKeyspaces c
  (c, r.map (·.map SchemaEntry.mk))

/-- The schema of this name. -/
def lookupSchema (c : Cluster) (name : String) : Cluster × Except Stop SchemaEntry :=
  match listSchemas c with
  | (c, .ok schemas) =>
    match schemas.find? (·.keyspace.name == name) with
    | some s => (c, .ok s)
    | none => (c, .error (.fault (.notFound ("keyspace " ++ name ++ " does not exist"))))
  | (c, .error e) => (c, .error e)

end Catalog

namespace SchemaEntry

/-- The schema in debugging form; `live` says whether the cluster is still held. -/
def debugText (s : SchemaEntry) (live : Bool) : String :=
  recordText "SchemaEntry" [("keyspace", s.keyspace.debugText), ("session", Hold.attached.debugText live)]

/-- The tables of the schema. -/
def listTables (s : SchemaEntry) (c : Cluster) : Cluster × Except Stop (List TableName) :=
  Discovery.listTables c s.keyspace

/-- The table of this name, described. -/
def lookupTable (s : SchemaEntry) (c : Cluster) (name : String) : Cluster × Except Stop TableEntry :=
  let t : TableName := ⟨s.keyspace.name, name⟩
  match Discovery.describeTable c t .auto with
  | (c, .ok columns) => (c, .ok ⟨t, columns, primaryKey columns⟩)
  | (c, .error e) => (c, .error e)

end SchemaEntry

namespace TableEntry

/-- The table in debugging form; `live` says whether the cluster is still held. -/
def debugText (t : TableEntry) (live : Bool) : String :=
  recordText "TableEntry"
    [("table", t.table.debugText), ("columns", listText (t.columns.map (·.debugText))),
     ("primary_key", listText (t.primaryKey.map quoted)),
     ("session", Hold.attached.debugText live)]

/-- A scan of every column of the table, maybe restricted by a predicate. -/
def scan (t : TableEntry) (filter : Option String) : Scan :=
  ⟨.attached, .table t.table filter, t.columns.map (·.toScanColumn), .unstarted, 0⟩

end TableEntry

/-- Writes a catalog refuses. -/
inductive CatalogWrite where
  | createSchema | dropSchema | createTable | createTableAs | dropTable | insert | update | delete
  deriving DecidableEq, Repr

/-- The refusal of an operation, named as a statement. -/
def refuse (operation : String) : Fault :=
  .unsupported (operation ++ " is not supported by the Cassandra catalog")

end CqlBridge
