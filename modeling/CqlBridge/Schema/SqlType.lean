/-!
# `CqlBridge.Schema.SqlType` — the relational column types a store column becomes

Fifteen relational types. `VARCHAR` and `JSON` are textual, the four integer widths are
integers, and `UUID` and `JSON` carry an extension name on their columns (`arrow.uuid`,
`arrow.json`).
-/

namespace CqlBridge

/-- A relational column type. -/
inductive SqlType where
  | boolean | tinyint | smallint | integer | bigint | float | double | varchar | blob | date
  | time | timestamptz | interval | uuid | json
  deriving Repr, DecidableEq, Inhabited

namespace SqlType

/-- All relational types. -/
def all : List SqlType :=
  [.boolean, .tinyint, .smallint, .integer, .bigint, .float, .double, .varchar, .blob, .date,
   .time, .timestamptz, .interval, .uuid, .json]

/-- The name of a relational type, as SQL writes it. -/
def name : SqlType → String
  | .boolean => "BOOLEAN" | .tinyint => "TINYINT" | .smallint => "SMALLINT"
  | .integer => "INTEGER" | .bigint => "BIGINT" | .float => "FLOAT" | .double => "DOUBLE"
  | .varchar => "VARCHAR" | .blob => "BLOB" | .date => "DATE" | .time => "TIME"
  | .timestamptz => "TIMESTAMP WITH TIME ZONE" | .interval => "INTERVAL" | .uuid => "UUID"
  | .json => "JSON"

/-- The name of a relational type in debugging output, in camel case. -/
def debugName : SqlType → String
  | .boolean => "Boolean" | .tinyint => "TinyInt" | .smallint => "SmallInt"
  | .integer => "Integer" | .bigint => "BigInt" | .float => "Float" | .double => "Double"
  | .varchar => "Varchar" | .blob => "Blob" | .date => "Date" | .time => "Time"
  | .timestamptz => "TimestampTz" | .interval => "Interval" | .uuid => "Uuid" | .json => "Json"

/-- The relational type with this name. -/
def ofName? (s : String) : Option SqlType :=
  all.find? (·.name == s)

/-- Text columns: `VARCHAR` and `JSON`. -/
def isTextual : SqlType → Bool
  | .varchar | .json => true
  | _ => false

/-- Integer columns: `TINYINT`, `SMALLINT`, `INTEGER` and `BIGINT`. -/
def isInteger : SqlType → Bool
  | .tinyint | .smallint | .integer | .bigint => true
  | _ => false

/-- The extension name of a column of this type, if it has one. -/
def extension : SqlType → Option String
  | .uuid => some "arrow.uuid"
  | .json => some "arrow.json"
  | _ => none

/-- The column type name in a relational engine, where JSON travels as `VARCHAR`. -/
def engineName : SqlType → String
  | .json => "VARCHAR"
  | t => t.name

end SqlType

end CqlBridge
