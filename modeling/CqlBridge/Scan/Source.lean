import CqlBridge.Schema.Names
import CqlBridge.Schema.Column
import CqlBridge.Text.Blank

/-!
# `CqlBridge.Scan.Source` — what a scan reads, and the statement that reads it

A scan reads a whole table, maybe restricted by a predicate, or the rows of a statement given
as is. The statement for a table selects the bound columns by their quoted names (all columns,
`*`, when none are bound) from the table's quoted name, and adds `WHERE` and the predicate,
trimmed, unless the predicate is blank.
-/

namespace CqlBridge

/-- A column a scan produces, with its relational type. -/
structure ScanColumn where
  name : String
  sqlType : SqlType
  deriving DecidableEq, Repr

/-- The column a scan produces for a described column. -/
def ColumnSpec.toScanColumn (c : ColumnSpec) : ScanColumn := ⟨c.name, c.sqlType⟩

/-- What a scan reads. -/
inductive ScanSource where
  /-- A whole table, maybe restricted by a predicate in the store's language. -/
  | table (name : TableName) (filter : Option String)
  /-- The rows of a statement. -/
  | query (text : String)
  deriving DecidableEq, Repr

namespace ScanSource

/-- The predicate that restricts a table, trimmed; none when it is blank. -/
def predicate? (filter : Option String) : Option String :=
  match filter.map Text.trim with
  | some f => if f.isEmpty then none else some f
  | none => none

/-- The statement that produces the rows of `source` for the bound `columns`. -/
def toCql (source : ScanSource) (columns : List ScanColumn) : String :=
  match source with
  | .query text => text
  | .table name filter =>
    let projection :=
      if columns.isEmpty then "*" else ", ".intercalate (columns.map (quoteIdent ·.name))
    let select := "SELECT " ++ projection ++ " FROM " ++ name.cqlName
    match predicate? filter with
    | some p => select ++ " WHERE " ++ p
    | none => select

end ScanSource

end CqlBridge
