import CqlBridge.Catalog.Basic

/-!
# `CqlBridge.TableFunction.Bind` — what a table function knows once its columns are fixed

Binding a table function fixes its output columns before any row is read:

* a table of a cluster: the columns of `describeTable … .auto`, scanned through an owned handle;
* a statement: the columns of `describeQuery`, through the handle given;
* a table of a catalog: the schema and table lookups of the catalog, scanned as the table entry
  scans, holding the cluster as attached.

The bound data then makes the scan that produces the rows.
-/

namespace CqlBridge

open Text (recordText listText variantText quoted)

/-- Where bound rows come from: a cluster handle, or a catalog's table. -/
inductive BindTarget where
  | cluster (hold : Hold)
  | table (entry : TableEntry)

/-- A bound table function: its columns, source and target. -/
structure BindData where
  columns : List ScanColumn
  source : ScanSource
  target : BindTarget

namespace BindData

/-- Whether the rows come through an attached catalog. -/
def isAttached (b : BindData) : Bool :=
  match b.target with
  | .table _ => true
  | .cluster h => h == .attached

/-- The bound data in debugging form; `live` says whether the cluster is still held. -/
def debugText (b : BindData) (live : Bool) : String :=
  let target := match b.target with
    | .cluster h => variantText "Session" (h.debugText live)
    | .table e => variantText "Table" (e.debugText live)
  recordText "ScanBindData"
    [("columns", listText (b.columns.map (·.debugText))), ("source", b.source.debugText),
     ("target", target)]

/-- The relational types of the bound columns. -/
def types (b : BindData) : List SqlType := b.columns.map (·.sqlType)

/-- The scan that produces the bound rows. -/
def scan (b : BindData) : Scan :=
  match b.target with
  | .table e =>
    let filter := match b.source with
      | .table _ f => f
      | .query _ => none
    e.scan filter
  | .cluster h => ⟨h, b.source, b.columns, .unstarted, 0⟩

end BindData

/-- Binds a whole table through an owned handle. -/
def bindTable (c : Cluster) (t : TableName) (filter : Option String) :
    Cluster × Except Stop BindData :=
  match Discovery.describeTable c t .auto with
  | (c, .ok cols) => (c, .ok ⟨cols.map (·.toScanColumn), .table t filter, .cluster .owned⟩)
  | (c, .error e) => (c, .error e)

/-- Binds a statement through a handle. -/
def bindQuery (c : Cluster) (hold : Hold) (q : String) : Cluster × Except Stop BindData :=
  match Discovery.describeQuery c q with
  | (c, .ok cols) => (c, .ok ⟨cols.map (·.toScanColumn), .query q, .cluster hold⟩)
  | (c, .error e) => (c, .error e)

/-- Binds a table of a catalog, through its schema and table lookups. -/
def bindCatalogTable (c : Cluster) (t : TableName) (filter : Option String) :
    Cluster × Except Stop BindData :=
  match Catalog.lookupSchema c t.keyspace with
  | (c, .error e) => (c, .error e)
  | (c, .ok s) =>
    match s.lookupTable c t.table with
    | (c, .error e) => (c, .error e)
    | (c, .ok e) =>
      (c, .ok ⟨e.columns.map (·.toScanColumn), .table e.table filter, .table e⟩)

end CqlBridge
