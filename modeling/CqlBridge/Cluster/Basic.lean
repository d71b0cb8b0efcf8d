import CqlBridge.Settings.Basic
import CqlBridge.Cell.Basic
import CqlBridge.Schema.StoreType
import CqlBridge.Schema.Column

/-!
# `CqlBridge.Cluster.Basic` — an in-memory cluster

A cluster holds keyspaces, tables with their rows, answers fixed in advance for given statement
texts, text patterns whose statements fail, and a switch that refuses reads of the schema
tables, as a role without schema grants would see. It keeps two logs, the statements run and
the statements prepared without being run, and counts the cursors handed out and not yet
released.

Columns of a table are declared in order; partition key and clustering columns are numbered
from 0 within their role, and static and regular columns carry position `-1`, as the schema
tables report them.
-/

namespace CqlBridge

/-- A row of cells; `none` is a null cell. -/
abbrev Row := List (Option Cell)

/-- A column of a result: its name and store type. -/
structure ResultColumn where
  name : String
  type : StoreType

/-- A whole result: its columns and rows. -/
structure ResultSet where
  columns : List ResultColumn
  rows : List Row

/-- The index of the first result column of this name. -/
def ResultSet.columnIndex? (r : ResultSet) (name : String) : Option Nat :=
  r.columns.findIdx? (·.name == name)

/-- The kind of a column as the schema tables write it. -/
def ColumnRole.kindText : ColumnRole → String
  | .partitionKey => "partition_key"
  | .clusteringKey => "clustering"
  | .static => "static"
  | .regular => "regular"
  | .unknown => "unknown"

/-- A declared column of a stored table. -/
structure StoredColumn where
  name : String
  type : StoreType
  role : ColumnRole
  /-- The place within partition key or clustering columns; `-1` for the others. -/
  position : Int

/-- A stored table: its declared columns and its rows, in the order they were added. -/
structure StoredTable where
  keyspace : String
  name : String
  columns : List StoredColumn := []
  rows : List Row := []

namespace StoredTable

/-- How many columns of a role are declared. -/
def countRole (t : StoredTable) (r : ColumnRole) : Nat :=
  (t.columns.filter (·.role == r)).length

/-- Declares a column; keys are numbered within their role. -/
def addColumn (t : StoredTable) (name : String) (type : StoreType) (role : ColumnRole) :
    StoredTable :=
  let position : Int := match role with
    | .partitionKey | .clusteringKey => t.countRole role
    | _ => -1
  { t with columns := t.columns ++ [⟨name, type, role, position⟩] }

/-- Adds rows after those already stored. -/
def addRows (t : StoredTable) (rows : List Row) : StoredTable := { t with rows := t.rows ++ rows }

end StoredTable

-- The statements that read the schema tables.
namespace SchemaQuery

/-- All keyspace names. -/
def keyspaces : String := "SELECT keyspace_name FROM system_schema.keyspaces"

/-- The table names of the keyspace bound to the one marker. -/
def tables : String :=
  "SELECT table_name FROM system_schema.tables WHERE keyspace_name = ?"

/-- The columns of the keyspace and table bound to the two markers. -/
def columns : String :=
  "SELECT column_name, type, kind, position FROM system_schema.columns WHERE keyspace_name = ? " ++
    "AND table_name = ?"

end SchemaQuery

/-- Inserts into a sorted list without repeats, keeping it so. -/
def insertSorted (x : String) : List String → List String
  | [] => [x]
  | y :: ys => if x < y then x :: y :: ys else if x == y then y :: ys else y :: insertSorted x ys

/-- An in-memory cluster with its logs. -/
structure Cluster where
  settings : Settings := {}
  /-- Keyspace names, sorted, without repeats. -/
  keyspaces : List String := []
  tables : List StoredTable := []
  /-- Fixed answers, by exact statement text. -/
  canned : List (String × ResultSet) := []
  /-- Statements containing one of these texts fail. -/
  failing : List String := []
  /-- Whether reads of the schema tables are refused. -/
  restricted : Bool := false
  /-- Whether statements are described by preparing them; else by opening a cursor. -/
  prepares : Bool := true
  executed : List String := []
  prepared : List String := []
  openCursors : Nat := 0

namespace Cluster

/-- Adds a keyspace. -/
def addKeyspace (c : Cluster) (name : String) : Cluster :=
  { c with keyspaces := insertSorted name c.keyspaces }

/-- Adds a table, and its keyspace. -/
def addTable (c : Cluster) (t : StoredTable) : Cluster :=
  { c.addKeyspace t.keyspace with tables := c.tables ++ [t] }

/-- Answers `cql` with `result` from now on, in place of any earlier fixed answer. -/
def addAnswer (c : Cluster) (cql : String) (result : ResultSet) : Cluster :=
  { c with canned := (c.canned.filter (·.1 != cql)) ++ [(cql, result)] }

/-- Fails every statement that contains `pattern`. -/
def addFailure (c : Cluster) (pattern : String) : Cluster :=
  { c with failing := c.failing ++ [pattern] }

/-- The first table with this keyspace and name. -/
def findTable? (c : Cluster) (keyspace name : String) : Option StoredTable :=
  c.tables.find? fun t => t.keyspace == keyspace && t.name == name

end Cluster

end CqlBridge
