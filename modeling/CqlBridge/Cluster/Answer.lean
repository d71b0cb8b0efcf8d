import CqlBridge.Cluster.Basic
import CqlBridge.Cluster.Select
import CqlBridge.Fault

/-!
# `CqlBridge.Cluster.Answer` — how an in-memory cluster answers a statement

A statement is answered by the first rule that applies:

1. it contains a failure pattern: it fails with `simulated failure for '<pattern>'`;
2. reads of the schema tables are refused and it names `system_schema`: it fails as
   unauthorized;
3. it has a fixed answer: that answer;
4. it is one of the three schema statements (`SchemaQuery`): the keyspaces in sorted order, the
   sorted table names of the bound keyspace, or the declared columns of the bound table, each
   with its type text, kind and position (no rows for an unknown table); a missing bound value
   fails;
5. otherwise it is read as a `SelectStmt` and evaluated against the stored tables: the first
   table of that keyspace and name, its columns by name (the first of a name) or all of them,
   its rows in order up to the limit, with missing cells null.

Running a statement logs it as executed. Opening a cursor runs the statement and counts one
more open cursor; releasing it counts one less. Describing a statement logs it as prepared and
answers without running it, unless the cluster does not prepare: then a cursor is opened and
released at once.

A cursor hands out its rows one at a time (`Cursor.nextRow`). Once they are used up it reports
the end of the result, or, for a cursor over a networked session whose next page cannot be
fetched, the fault of that fetch. The cursors of the in-memory cluster always reach the end.
-/

namespace CqlBridge

/-- An open cursor: the columns of its result, the rows not yet read, and the fault that reading
past them raises, if fetching the next page fails. -/
structure Cursor where
  columns : List ResultColumn
  rows : List Row
  failure : Option Fault := none

namespace Cursor

/-- The next row and the cursor after it, `none` at the end of the result, or the fault of a
failed fetch once the rows are used up. -/
def nextRow (cur : Cursor) : Except Fault (Option (Row × Cursor)) :=
  match cur.rows, cur.failure with
  | row :: rest, _ => .ok (some (row, { cur with rows := rest }))
  | [], none => .ok none
  | [], some f => .error f

/-- Asks for rows until `n` are read or the result ends: the rows read, in order, and the cursor
after them, or the fault of the call that failed. -/
def readRows (cur : Cursor) : Nat → List Row × Except Fault Cursor
  | 0 => ([], .ok cur)
  | n + 1 =>
    match cur.nextRow with
    | .error f => ([], .error f)
    | .ok none => ([], .ok cur)
    | .ok (some (row, cur')) =>
      let (rows, rest) := cur'.readRows n
      (row :: rows, rest)

end Cursor

namespace Cluster

/-- The bound value at `i`, or a failure of `cql` naming the missing index. -/
def param (cql : String) (params : List String) (i : Nat) : Except Stop String :=
  match params[i]? with
  | some p => .ok p
  | none => .error (.fault (.queryFailed cql ("missing bind value " ++ toString i)))

/-- The keyspace names, one text cell each. -/
def keyspacesResult (c : Cluster) : ResultSet :=
  ⟨[⟨"keyspace_name", .scalar .text⟩], c.keyspaces.map fun k => [some (.text k)]⟩

/-- The sorted table names of a keyspace. -/
def tablesResult (c : Cluster) (keyspace : String) : ResultSet :=
  let names := (c.tables.filter (·.keyspace == keyspace)).foldl
    (fun acc t => insertSorted t.name acc) []
  ⟨[⟨"table_name", .scalar .text⟩], names.map fun n => [some (.text n)]⟩

/-- The declared columns of a table: name, type text, kind and position. -/
def columnsResult (c : Cluster) (keyspace table : String) : ResultSet :=
  let columns : List ResultColumn :=
    [⟨"column_name", .scalar .text⟩, ⟨"type", .scalar .text⟩, ⟨"kind", .scalar .text⟩,
     ⟨"position", .scalar .int⟩]
  let rows := match c.findTable? keyspace table with
    | some t => t.columns.map fun col =>
      [some (.text col.name), some (.text col.type.render), some (.text col.role.kindText),
       some (.int (Int32.ofInt col.position))]
    | none => []
  ⟨columns, rows⟩

/-- Finds each named column of `t`: its index and declaration. -/
def resolve (cql : String) (t : StoredTable) : List String → Except Stop (List (Nat × StoredColumn))
  | [] => .ok []
  | name :: names =>
    match t.columns.findIdx? (·.name == name) with
    | none => .error (.fault (.queryFailed cql ("undefined column name " ++ name)))
    | some i => do
      let col := (t.columns[i]?).getD ⟨name, .scalar .text, .regular, -1⟩
      return (i, col) :: (← resolve cql t names)

/-- Evaluates a statement against the stored tables. -/
def select (c : Cluster) (cql : String) : Except Stop ResultSet := do
  let stmt ← match SelectStmt.read cql with
    | .ok s => pure s
    | .error .unsupported => throw (.fault (.queryFailed cql "unsupported statement"))
    | .error .crossed => throw .crash
  let some t := c.findTable? stmt.keyspace stmt.table
    | throw (.fault (.queryFailed cql
        ("unconfigured table " ++ stmt.keyspace ++ "." ++ stmt.table)))
  let picked ← match stmt.projection with
    | none => pure (t.columns.zipIdx.map fun (col, i) => (i, col))
    | some names => resolve cql t names
  let rows := match stmt.limit with
    | some n => t.rows.take n
    | none => t.rows
  return ⟨picked.map (fun (_, col) => ⟨col.name, col.type⟩),
    rows.map fun row => picked.map fun (i, _) => (row[i]?).join⟩

/-- The answer to a statement, without logging it. -/
def answer (c : Cluster) (cql : String) (params : List String) : Except Stop ResultSet := do
  if let some p := c.failing.find? (Text.containsText cql ·) then
    throw (.fault (.queryFailed cql ("simulated failure for '" ++ p ++ "'")))
  if c.restricted && Text.containsText cql "system_schema" then
    throw (.fault (.queryFailed cql "Unauthorized: no SELECT permission on system_schema"))
  if let some (_, r) := c.canned.find? (·.1 == cql) then return r
  if cql == SchemaQuery.keyspaces then return c.keyspacesResult
  if cql == SchemaQuery.tables then return c.tablesResult (← param cql params 0)
  if cql == SchemaQuery.columns then
    let keyspace ← param cql params 0
    let table ← param cql params 1
    return c.columnsResult keyspace table
  c.select cql

/-- Runs a statement: logs it, then answers it. -/
def execute (c : Cluster) (cql : String) (params : List String) :
    Cluster × Except Stop ResultSet :=
  let c := { c with executed := c.executed ++ [cql] }
  (c, c.answer cql params)

/-- Runs a statement and opens a cursor over its rows. -/
def openCursor (c : Cluster) (cql : String) : Cluster × Except Stop Cursor :=
  match c.execute cql [] with
  | (c, .ok r) =>
    ({ c with openCursors := c.openCursors + 1 }, .ok { columns := r.columns, rows := r.rows })
  | (c, .error e) => (c, .error e)

/-- Releases a cursor. -/
def releaseCursor (c : Cluster) : Cluster := { c with openCursors := c.openCursors - 1 }

/-- The result columns of a statement. -/
def describe (c : Cluster) (cql : String) : Cluster × Except Stop (List ResultColumn) :=
  if c.prepares then
    let c := { c with prepared := c.prepared ++ [cql] }
    (c, (c.answer cql []).map (·.columns))
  else
    match c.openCursor cql with
    | (c, .ok cur) => (c.releaseCursor, .ok cur.columns)
    | (c, .error e) => (c, .error e)

end Cluster

end CqlBridge
