import CqlBridge.Cluster.Answer
import CqlBridge.Schema.Names
import CqlBridge.Schema.Mapping

/-!
# `CqlBridge.Discovery` — keyspaces, tables and columns, read from a cluster

Listing degrades gracefully when the schema tables cannot be read; describing a named table
never does: it gives columns or a discovery fault.

| operation | result | when the schema tables fail |
|---|---|---|
| `listKeyspaces` | non-empty names, sorted, without repeats | `system`, then the configured keyspace |
| `listTables` | the keyspace's tables, sorted by table name | no tables |
| `describeTable .metadata` | the metadata rows with text name and type, by (rank, position, name) | a discovery fault |
| `describeTable .probe` | the columns of `SELECT * … LIMIT 1` | a discovery fault |
| `describeTable .auto` | the metadata answer, or the probe's after a discovery fault | |
| `describeQuery` | the result columns of a statement | its own fault |

A described column's position is its place in the answer, from 0. Columns found from a result
have role `unknown`; a table without metadata rows is not found, and no columns at all is a
discovery fault for a statement.
-/

namespace CqlBridge

/-- Where `describeTable` looks for a table's columns. -/
inductive Strategy where
  /-- The schema tables, then a probe when they cannot be read. -/
  | auto
  | metadata
  | probe
  deriving DecidableEq, Repr

namespace Discovery

/-- The text in cell `i` of a row, if it is text. -/
def textAt (row : Row) (i : Nat) : Option String :=
  match row[i]? with
  | some (some (.ascii s)) | some (some (.text s)) => some s
  | _ => none

/-- The number in cell `i` of a row, if it is a 32-bit integer. -/
def intAt (row : Row) (i : Nat) : Option Int :=
  match row[i]? with
  | some (some (.int v)) => some v.toInt
  | _ => none

/-- The texts of the column of this name (the first column when there is none). -/
def textColumn (r : ResultSet) (name : String) : List String :=
  let i := (r.columnIndex? name).getD 0
  r.rows.filterMap (textAt · i)

/-- Removes repeats that stand next to each other. -/
def dropRepeats {α : Type} [BEq α] : List α → List α
  | a :: b :: rest => if a == b then dropRepeats (b :: rest) else a :: dropRepeats (b :: rest)
  | l => l

/-- The keyspaces listed when the schema tables cannot be read: `system`, then the configured
keyspace if it is another. -/
def fallbackKeyspaces (c : Cluster) : List KeyspaceName :=
  match c.settings.keyspace.map KeyspaceName.make with
  | some (.ok k) => if k.name == "system" then [KeyspaceName.system] else [KeyspaceName.system, k]
  | _ => [KeyspaceName.system]

/-- Every keyspace of the cluster, or the fallback list. -/
def listKeyspaces (c : Cluster) : Cluster × Except Stop (List KeyspaceName) :=
  match c.execute SchemaQuery.keyspaces [] with
  | (c, .ok r) =>
    let names := (textColumn r "keyspace_name").filterMap fun s => (KeyspaceName.make s).toOption
    (c, .ok (dropRepeats (names.mergeSort fun a b => !(b.name < a.name))))
  | (c, .error (.fault _)) => (c, .ok (fallbackKeyspaces c))
  | (c, .error .crash) => (c, .error .crash)

/-- The tables of a keyspace, sorted by name; none when the schema tables cannot be read. -/
def listTables (c : Cluster) (keyspace : KeyspaceName) : Cluster × Except Stop (List TableName) :=
  match c.execute SchemaQuery.tables [keyspace.name] with
  | (c, .ok r) =>
    let tables := (textColumn r "table_name").map (TableName.mk keyspace.name)
    (c, .ok (tables.mergeSort fun a b => !(b.table < a.table)))
  | (c, .error (.fault _)) => (c, .ok [])
  | (c, .error .crash) => (c, .error .crash)

/-- Whether a keyspace of this name is listed. -/
def keyspaceExists (c : Cluster) (name : String) : Cluster × Except Stop Bool :=
  let (c, r) := listKeyspaces c
  (c, r.map (·.any (·.name == name)))

/-- Whether the table is listed in its keyspace; never for an empty keyspace name. -/
def tableExists (c : Cluster) (t : TableName) : Cluster × Except Stop Bool :=
  match KeyspaceName.make t.keyspace with
  | .ok k =>
    let (c, r) := listTables c k
    (c, r.map (·.any (·.table == t.table)))
  | .error _ => (c, .ok false)

/-- The relational type of a type text; reading it may crash. -/
def sqlTypeOfText (text : String) : Except Stop SqlType :=
  match StoreType.read? text with
  | some t => .ok (SqlType.ofStoreType t)
  | none => .error .crash

/-- Metadata rows before numbering: name, type text, role and reported position. -/
structure MetaRow where
  name : String
  sourceType : String
  role : ColumnRole
  position : Int

/-- The order of metadata rows: by role rank, then reported position, then name. -/
def MetaRow.le (a b : MetaRow) : Bool :=
  a.role.rank < b.role.rank || (a.role.rank == b.role.rank &&
    (a.position < b.position || (a.position == b.position && !(b.name < a.name))))

/-- Numbers metadata rows in order and assigns their relational types. -/
def numberRows : Nat → List MetaRow → Except Stop (List ColumnSpec)
  | _, [] => .ok []
  | i, r :: rs => do
    let t ← sqlTypeOfText r.sourceType
    return ⟨r.name, r.sourceType, r.role, i, t⟩ :: (← numberRows (i + 1) rs)

/-- The index of a metadata column, or a discovery fault naming it. -/
def metaIndex (r : ResultSet) (name : String) : Except Stop Nat :=
  match r.columnIndex? name with
  | some i => .ok i
  | none => .error (.fault (.discovery ("metadata result has no '" ++ name ++ "' column")))

/-- The columns of a table from the schema tables. -/
def fromMetadata (c : Cluster) (t : TableName) : Cluster × Except Stop (List ColumnSpec) :=
  match c.execute SchemaQuery.columns [t.keyspace, t.table] with
  | (c, .error (.fault e)) =>
    (c, .error (.fault (.discovery
      ("metadata query for " ++ t.qualified ++ " failed: " ++ e.message))))
  | (c, .error .crash) => (c, .error .crash)
  | (c, .ok r) => (c, do
    let ni ← metaIndex r "column_name"
    let ti ← metaIndex r "type"
    let ki ← metaIndex r "kind"
    let pi ← metaIndex r "position"
    let rows := r.rows.filterMap fun row => do
      let name ← textAt row ni
      let sourceType ← textAt row ti
      return ⟨name, sourceType, ColumnRole.ofKind ((textAt row ki).getD ""),
        (intAt row pi).getD (-1)⟩
    if rows.isEmpty then
      throw (.fault (.notFound ("table " ++ t.qualified ++ " does not exist")))
    numberRows 0 (rows.mergeSort MetaRow.le))

/-- Columns read off a result's columns: role unknown, numbered in order. -/
def ofResultColumns (columns : List ResultColumn) : List ColumnSpec :=
  columns.zipIdx.map fun (col, i) =>
    ⟨col.name, col.type.render, .unknown, i, SqlType.ofStoreType col.type⟩

/-- The statement that probes a table. -/
def probeQuery (t : TableName) : String := "SELECT * FROM " ++ t.cqlName ++ " LIMIT 1"

/-- The columns of a table from a probe of one row. -/
def byProbe (c : Cluster) (t : TableName) : Cluster × Except Stop (List ColumnSpec) :=
  match c.execute (probeQuery t) [] with
  | (c, .error (.fault e)) =>
    (c, .error (.fault (.discovery ("probe of " ++ t.qualified ++ " failed: " ++ e.message))))
  | (c, .error .crash) => (c, .error .crash)
  | (c, .ok r) =>
    if r.columns.isEmpty then
      (c, .error (.fault (.notFound ("table " ++ t.qualified ++ " has no columns"))))
    else (c, .ok (ofResultColumns r.columns))

/-- The columns of a table in output order, by a strategy. -/
def describeTable (c : Cluster) (t : TableName) : Strategy → Cluster × Except Stop (List ColumnSpec)
  | .metadata => fromMetadata c t
  | .probe => byProbe c t
  | .auto =>
    match fromMetadata c t with
    | (c, .error (.fault (.discovery _))) => byProbe c t
    | other => other

/-- The output columns of a statement, from its description. -/
def describeQuery (c : Cluster) (cql : String) : Cluster × Except Stop (List ColumnSpec) :=
  match c.describe cql with
  | (c, .ok []) => (c, .error (.fault (.discovery ("query returns no columns: " ++ cql))))
  | (c, .ok cols) => (c, .ok (ofResultColumns cols))
  | (c, .error e) => (c, .error e)

end Discovery

end CqlBridge
