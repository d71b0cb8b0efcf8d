import CqlBridge.Scan.Executor
import CqlBridge.Text.Record

/-!
# `CqlBridge.Scan.Shown` — names, columns, sources and scans in debugging form

Each value is written as a record of its fields in declaration order
(`CqlBridge.Text.Record`): a table name as `TableRef { keyspace: "…", table: "…" }`, a source
as `Table { table: …, filter: None }` or `Query("…")`, a scan as its source, bound columns,
phase and row count. A handle on a cluster is `SessionRef::Owned`, or
`SessionRef::Attached(live: …)` with whether the cluster is still held.
-/

namespace CqlBridge

open Text (recordText listText variantText optionText quoted)

/-- A table name in debugging form. -/
def TableName.debugText (t : TableName) : String :=
  recordText "TableRef" [("keyspace", quoted t.keyspace), ("table", quoted t.table)]

/-- A keyspace name in debugging form. -/
def KeyspaceName.debugText (k : KeyspaceName) : String :=
  recordText "KeyspaceRef" [("name", quoted k.name)]

/-- A source in debugging form. -/
def ScanSource.debugText : ScanSource → String
  | .table t f => recordText "Table" [("table", t.debugText), ("filter", optionText (f.map quoted))]
  | .query q => variantText "Query" (quoted q)

/-- A bound column in debugging form. -/
def ScanColumn.debugText (c : ScanColumn) : String :=
  recordText "ScanColumn" [("name", quoted c.name), ("logical_type", c.sqlType.debugName)]

/-- A described column in debugging form. -/
def ColumnSpec.debugText (c : ColumnSpec) : String :=
  recordText "ColumnInfo"
    [("name", quoted c.name), ("source_type", quoted c.sourceType), ("role", c.role.name),
     ("position", toString c.position), ("logical_type", c.sqlType.debugName)]

/-- A handle on a cluster in debugging form; `live` says whether the cluster is still held. -/
def Hold.debugText (h : Hold) (live : Bool) : String :=
  match h with
  | .owned => "SessionRef::Owned"
  | .attached => "SessionRef::Attached(live: " ++ toString live ++ ")"

/-- A scan in debugging form. -/
def Scan.debugText (s : Scan) : String :=
  recordText "ScanExecutor"
    [("source", s.source.debugText), ("columns", listText (s.columns.map (·.debugText))),
     ("phase", s.phase.name), ("rows_emitted", toString s.rowsEmitted)]

end CqlBridge
