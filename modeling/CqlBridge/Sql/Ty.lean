import CqlBridge.Sql.Keyword
import CqlBridge.Schema.SqlType

/-!
# `CqlBridge.Sql.Ty` — the column types of the relational engine

Besides the fifteen types a store column becomes (`SqlType`), the engine knows the type of a
bare `NULL`, 128-bit and unsigned integers, fixed-point decimals with a width and a scale, a
timestamp without time zone, and three nested types: lists, structs with named fields, and
maps.

A type has a name, as `typeof` reports it, and integer types have a storage name that
conversion errors use (`INT8` for `TINYINT`, …) and a range of values.
-/

namespace CqlBridge.Sql

/-- A column type of the engine. -/
inductive Ty where
  /-- The type of a bare `NULL`. -/
  | null
  | boolean
  | tinyint | smallint | integer | bigint | hugeint
  | utinyint | usmallint | uinteger | ubigint
  | float | double
  /-- A fixed-point number of `width` digits, `scale` of them after the point. -/
  | decimal (width scale : Nat)
  | varchar | blob
  | date | time | timestamp | timestamptz | interval
  | uuid
  | list (elem : Ty)
  | struct (fields : List (String × Ty))
  | map (key value : Ty)
  deriving Repr, Inhabited

namespace Ty

mutual

/-- Equality of types. -/
def beq : Ty → Ty → Bool
  | .null, .null | .boolean, .boolean | .tinyint, .tinyint | .smallint, .smallint
  | .integer, .integer | .bigint, .bigint | .hugeint, .hugeint | .utinyint, .utinyint
  | .usmallint, .usmallint | .uinteger, .uinteger | .ubigint, .ubigint | .float, .float
  | .double, .double | .varchar, .varchar | .blob, .blob | .date, .date | .time, .time
  | .timestamp, .timestamp | .timestamptz, .timestamptz | .interval, .interval
  | .uuid, .uuid => true
  | .decimal w s, .decimal w' s' => w == w' && s == s'
  | .list a, .list b => beq a b
  | .struct fs, .struct gs => fieldsBeq fs gs
  | .map k v, .map k' v' => beq k k' && beq v v'
  | _, _ => false

/-- Equality of struct fields, names and types in order. -/
def fieldsBeq : List (String × Ty) → List (String × Ty) → Bool
  | [], [] => true
  | (n, t) :: fs, (m, u) :: gs => n == m && beq t u && fieldsBeq fs gs
  | _, _ => false

end

instance : BEq Ty := ⟨beq⟩

mutual

/-- The name of a type, as `typeof` reports it. -/
def name : Ty → String
  | .null => "\"NULL\""
  | .boolean => "BOOLEAN"
  | .tinyint => "TINYINT"
  | .smallint => "SMALLINT"
  | .integer => "INTEGER"
  | .bigint => "BIGINT"
  | .hugeint => "HUGEINT"
  | .utinyint => "UTINYINT"
  | .usmallint => "USMALLINT"
  | .uinteger => "UINTEGER"
  | .ubigint => "UBIGINT"
  | .float => "FLOAT"
  | .double => "DOUBLE"
  | .decimal w s => "DECIMAL(" ++ toString w ++ "," ++ toString s ++ ")"
  | .varchar => "VARCHAR"
  | .blob => "BLOB"
  | .date => "DATE"
  | .time => "TIME"
  | .timestamp => "TIMESTAMP"
  | .timestamptz => "TIMESTAMP WITH TIME ZONE"
  | .interval => "INTERVAL"
  | .uuid => "UUID"
  | .list t => name t ++ "[]"
  | .struct fs => "STRUCT(" ++ fieldsName fs ++ ")"
  | .map k v => "MAP(" ++ name k ++ ", " ++ name v ++ ")"

/-- The fields of a struct type, `name TYPE` separated by commas. -/
def fieldsName : List (String × Ty) → String
  | [] => ""
  | [(n, t)] => nameText n ++ " " ++ name t
  | (n, t) :: fs => nameText n ++ " " ++ name t ++ ", " ++ fieldsName fs

end

/-- The engine type a store column's relational type travels as; JSON travels as text. -/
def ofSqlType : SqlType → Ty
  | .boolean => .boolean
  | .tinyint => .tinyint
  | .smallint => .smallint
  | .integer => .integer
  | .bigint => .bigint
  | .float => .float
  | .double => .double
  | .varchar | .json => .varchar
  | .blob => .blob
  | .date => .date
  | .time => .time
  | .timestamptz => .timestamptz
  | .interval => .interval
  | .uuid => .uuid

/-- The smallest and largest value of an integer type. -/
def intRange? : Ty → Option (Int × Int)
  | .tinyint => some (-Int.pow 2 7, Int.pow 2 7 - 1)
  | .smallint => some (-Int.pow 2 15, Int.pow 2 15 - 1)
  | .integer => some (-Int.pow 2 31, Int.pow 2 31 - 1)
  | .bigint => some (-Int.pow 2 63, Int.pow 2 63 - 1)
  | .hugeint => some (-Int.pow 2 127, Int.pow 2 127 - 1)
  | .utinyint => some (0, Int.pow 2 8 - 1)
  | .usmallint => some (0, Int.pow 2 16 - 1)
  | .uinteger => some (0, Int.pow 2 32 - 1)
  | .ubigint => some (0, Int.pow 2 64 - 1)
  | _ => none

/-- Whether a type is an integer type. -/
def isInteger (t : Ty) : Bool := t.intRange?.isSome

/-- Whether a type is a binary floating-point type. -/
def isFloating : Ty → Bool
  | .float | .double => true
  | _ => false

/-- Whether a type is a number type. -/
def isNumeric (t : Ty) : Bool :=
  t.isInteger || t.isFloating || match t with
    | .decimal .. => true
    | _ => false

/-- The storage name of a type, as conversion errors write it. -/
def storageName : Ty → String
  | .boolean => "BOOL"
  | .tinyint => "INT8"
  | .smallint => "INT16"
  | .integer => "INT32"
  | .bigint => "INT64"
  | .hugeint => "INT128"
  | .utinyint => "UINT8"
  | .usmallint => "UINT16"
  | .uinteger => "UINT32"
  | .ubigint => "UINT64"
  | .float => "FLOAT"
  | .double => "DOUBLE"
  | .decimal .. => "DECIMAL"
  | .varchar => "VARCHAR"
  | .blob => "BLOB"
  | .date => "DATE"
  | .time => "TIME"
  | .timestamp => "TIMESTAMP"
  | .timestamptz => "TIMESTAMP WITH TIME ZONE"
  | .interval => "INTERVAL"
  | .uuid => "UUID"
  | t => t.name

/-- The rank of an integer type among the integer types, for choosing the wider of two. -/
def intRank : Ty → Nat
  | .tinyint => 1
  | .utinyint => 2
  | .smallint => 3
  | .usmallint => 4
  | .integer => 5
  | .uinteger => 6
  | .bigint => 7
  | .ubigint => 8
  | .hugeint => 9
  | _ => 0

/-- The decimal digits an integer type needs, as the width of an equivalent decimal. -/
def intDigits : Ty → Nat
  | .tinyint | .utinyint => 3
  | .smallint | .usmallint => 5
  | .integer | .uinteger => 10
  | .bigint => 19
  | .ubigint => 20
  | _ => 38

/-- The type of a named simple type, as casts and column definitions write it (any case). -/
def ofName? (s : String) : Option Ty :=
  match lowerAscii s with
  | "boolean" | "bool" | "logical" => some .boolean
  | "tinyint" | "int1" => some .tinyint
  | "smallint" | "int2" | "short" => some .smallint
  | "integer" | "int" | "int4" | "signed" => some .integer
  | "bigint" | "int8" | "long" => some .bigint
  | "hugeint" | "int128" => some .hugeint
  | "utinyint" => some .utinyint
  | "usmallint" => some .usmallint
  | "uinteger" => some .uinteger
  | "ubigint" => some .ubigint
  | "float" | "float4" | "real" => some .float
  | "double" | "float8" => some .double
  | "decimal" | "numeric" | "dec" => some (.decimal 18 3)
  | "varchar" | "text" | "string" | "char" | "bpchar" => some .varchar
  | "blob" | "bytea" | "binary" | "varbinary" => some .blob
  | "date" => some .date
  | "time" => some .time
  | "timestamp" | "datetime" => some .timestamp
  | "timestamptz" => some .timestamptz
  | "interval" => some .interval
  | "uuid" => some .uuid
  | _ => none

example : (Ty.list (.struct [("a", .integer)])).name = "STRUCT(a INTEGER)[]" := by decide +kernel
example : (Ty.map .integer .varchar).name = "MAP(INTEGER, VARCHAR)" := by decide +kernel

end Ty

end CqlBridge.Sql
