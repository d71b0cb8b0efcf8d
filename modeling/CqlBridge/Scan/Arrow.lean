import CqlBridge.Datum.Decode

/-!
# `CqlBridge.Scan.Arrow` — columnar batches: types, fields, builders, and their assembly

A scan hands its rows out as a *record batch*: a schema of fields, a row count, and one array
per field. This module holds the part of the columnar format that scans use.

| relational type | arrow type | builder |
|---|---|---|
| `BOOLEAN`, `TINYINT` … `BIGINT` | `Boolean`, `Int8` … `Int64` | one per type |
| `FLOAT`, `DOUBLE` | `Float32`, `Float64` | one per type |
| `VARCHAR`, `JSON` | `Utf8` | one text builder for both |
| `BLOB` | `Binary` | |
| `DATE`, `TIME` | `Date32`, `Time64(µs)` | |
| `TIMESTAMP WITH TIME ZONE` | `Timestamp(µs, "UTC")` | the builder carries the zone |
| `INTERVAL` | `Interval(MonthDayNano)` | |
| `UUID` | `FixedSizeBinary(16)` | refuses a value of another width |

A field is nullable and carries the column's extension name (`arrow.uuid`, `arrow.json`) when
it has one. A builder is an append-only list of slots; it stores a datum of its own kind and
a null for anything else. Assembling a batch checks, in order, that there are as many arrays
as fields, that no non-nullable field holds a null, that every array has the row count, and
that every array's type is its field's.

The builders and these checks belong to the columnar library, not to the scan. They are modelled
as the scan relies on them, builders as append-only lists of slots, so what is proved of a
pull's batch holds of the library as far as its builders behave that way.
-/

namespace CqlBridge

/-- The columnar data types of scan batches. -/
inductive ArrowType where
  | boolean | int8 | int16 | int32 | int64 | float32 | float64 | utf8 | binary | date32
  /-- Times of day in microseconds. -/
  | time64Micros
  /-- Instants in microseconds, with the zone they are read in. -/
  | timestampMicros (zone : Option String)
  | intervalMonthDayNano
  /-- Byte strings of one fixed width. -/
  | fixedSizeBinary (width : Nat)
  deriving DecidableEq, Repr

/-- The debugging name of a columnar type. -/
def ArrowType.debugName : ArrowType → String
  | .boolean => "Boolean" | .int8 => "Int8" | .int16 => "Int16" | .int32 => "Int32"
  | .int64 => "Int64" | .float32 => "Float32" | .float64 => "Float64" | .utf8 => "Utf8"
  | .binary => "Binary" | .date32 => "Date32" | .time64Micros => "Time64(Microsecond)"
  | .timestampMicros none => "Timestamp(Microsecond, None)"
  | .timestampMicros (some z) => "Timestamp(Microsecond, Some(\"" ++ z ++ "\"))"
  | .intervalMonthDayNano => "Interval(MonthDayNano)"
  | .fixedSizeBinary w => "FixedSizeBinary(" ++ toString w ++ ")"

/-- A field of a schema: name, type, whether it may hold nulls, and its extension name. -/
structure Field where
  name : String
  type : ArrowType
  nullable : Bool
  extension : Option String
  deriving DecidableEq, Repr

/-- A value in a slot of an array. -/
inductive ArrowValue where
  | boolean (b : Bool)
  | int8 (i : Int8)
  | int16 (i : Int16)
  | int32 (i : Int32)
  | int64 (i : Int64)
  | float32 (bits : UInt32)
  | float64 (bits : UInt64)
  | utf8 (s : String)
  | binary (bytes : List UInt8)
  | date32 (days : Int32)
  | time64 (micros : Int64)
  | timestamp (micros : Int64)
  | monthDayNano (months days : Int32) (nanos : Int64)
  | fixed (bytes : List UInt8)
  deriving DecidableEq, Repr

/-- An array: its type and its slots, `none` for a null. -/
structure ArrowArray where
  type : ArrowType
  slots : List (Option ArrowValue)
  deriving DecidableEq, Repr

/-- Why the columnar format refuses something; every refusal is an invalid argument. -/
inductive ArrowError where
  | invalidArgument (detail : String)
  deriving DecidableEq, Repr

/-- The words of a refusal. -/
def ArrowError.message : ArrowError → String
  | .invalidArgument d => "Invalid argument error: " ++ d

namespace SqlType

/-- The columnar type of a column of this relational type. -/
def toArrow : SqlType → ArrowType
  | .boolean => .boolean
  | .tinyint => .int8
  | .smallint => .int16
  | .integer => .int32
  | .bigint => .int64
  | .float => .float32
  | .double => .float64
  | .varchar | .json => .utf8
  | .blob => .binary
  | .date => .date32
  | .time => .time64Micros
  | .timestamptz => .timestampMicros (some "UTC")
  | .interval => .intervalMonthDayNano
  | .uuid => .fixedSizeBinary 16

/-- The nullable field of a column of this type, with the type's extension name. -/
def toArrowField (t : SqlType) (name : String) : Field := ⟨name, t.toArrow, true, t.extension⟩

end SqlType

/-- The relational type a field stands for: its type, and for text its extension name. -/
def Field.sqlType (f : Field) : SqlType :=
  match f.type with
  | .boolean => .boolean
  | .int8 => .tinyint
  | .int16 => .smallint
  | .int32 => .integer
  | .int64 => .bigint
  | .float32 => .float
  | .float64 => .double
  | .utf8 => if f.extension == some "arrow.json" then .json else .varchar
  | .binary => .blob
  | .date32 => .date
  | .time64Micros => .time
  | .timestampMicros _ => .timestamptz
  | .intervalMonthDayNano => .interval
  | .fixedSizeBinary _ => .uuid

/-- The datum a slot holds, read as a value of the relational type `t`. -/
def ArrowValue.toDatum (t : SqlType) : ArrowValue → Datum
  | .boolean b => .boolean b
  | .int8 i => .tinyint i
  | .int16 i => .smallint i
  | .int32 i => .integer i
  | .int64 i => .bigint i
  | .float32 b => .float b
  | .float64 b => .double b
  | .utf8 s => Datum.ofText t s
  | .binary bs => .blob bs
  | .date32 d => .date d
  | .time64 us => .time us
  | .timestamp us => .timestamptz us
  | .monthDayNano m d n => .interval m d n
  | .fixed bs => .uuid (Uuid.ofBytes bs)

/-- The datum in a slot of a field: NULL of the field's type for a null slot. -/
def Field.read (f : Field) : Option ArrowValue → Datum
  | none => .null f.sqlType
  | some v => v.toDatum f.sqlType

/-- The kinds of column builder, one per columnar type that scans produce. -/
inductive BuilderKind where
  | boolean | tinyint | smallint | integer | bigint | float | double | text | blob | date | time
  | timestamp | interval | uuid
  deriving DecidableEq, Repr

namespace BuilderKind

/-- The width of a UUID builder's values. -/
def uuidWidth : Nat := 16

/-- The type of the arrays a builder of this kind makes; timestamps carry the UTC zone. -/
def arrowType : BuilderKind → ArrowType
  | .boolean => .boolean
  | .tinyint => .int8
  | .smallint => .int16
  | .integer => .int32
  | .bigint => .int64
  | .float => .float32
  | .double => .float64
  | .text => .utf8
  | .blob => .binary
  | .date => .date32
  | .time => .time64Micros
  | .timestamp => .timestampMicros (some "UTC")
  | .interval => .intervalMonthDayNano
  | .uuid => .fixedSizeBinary uuidWidth

/-- The value a builder of this kind stores for a datum; `none` for a datum of another kind,
which is stored as a null. UUIDs go through the width check of `ColumnBuilder.append`. -/
def accept : BuilderKind → Datum → Option ArrowValue
  | .boolean, .boolean b => some (.boolean b)
  | .tinyint, .tinyint i => some (.int8 i)
  | .smallint, .smallint i => some (.int16 i)
  | .integer, .integer i => some (.int32 i)
  | .bigint, .bigint i => some (.int64 i)
  | .float, .float b => some (.float32 b)
  | .double, .double b => some (.float64 b)
  | .text, .varchar s => some (.utf8 s)
  | .text, .json s => some (.utf8 s)
  | .blob, .blob bs => some (.binary bs)
  | .date, .date d => some (.date32 d)
  | .time, .time us => some (.time64 us)
  | .timestamp, .timestamptz us => some (.timestamp us)
  | .interval, .interval m d n => some (.monthDayNano m d n)
  | _, _ => none

end BuilderKind

/-- An append-only column builder: its kind and the slots appended so far. -/
structure ColumnBuilder where
  kind : BuilderKind
  slots : List (Option ArrowValue) := []

namespace ColumnBuilder

/-- The empty builder for a column of a relational type; `VARCHAR` and `JSON` share one. -/
def new : SqlType → ColumnBuilder
  | .boolean => ⟨.boolean, []⟩
  | .tinyint => ⟨.tinyint, []⟩
  | .smallint => ⟨.smallint, []⟩
  | .integer => ⟨.integer, []⟩
  | .bigint => ⟨.bigint, []⟩
  | .float => ⟨.float, []⟩
  | .double => ⟨.double, []⟩
  | .varchar | .json => ⟨.text, []⟩
  | .blob => ⟨.blob, []⟩
  | .date => ⟨.date, []⟩
  | .time => ⟨.time, []⟩
  | .timestamptz => ⟨.timestamp, []⟩
  | .interval => ⟨.interval, []⟩
  | .uuid => ⟨.uuid, []⟩

/-- Appends a slot. -/
def push (b : ColumnBuilder) (v : Option ArrowValue) : ColumnBuilder :=
  { b with slots := b.slots ++ [v] }

/-- Appends a null. -/
def appendNull (b : ColumnBuilder) : ColumnBuilder := b.push none

/-- Appends a datum: stored when it is of the builder's kind, a null otherwise. A UUID builder
refuses bytes of a width other than 16. -/
def append (b : ColumnBuilder) (d : Datum) : Except ArrowError ColumnBuilder :=
  match b.kind, d with
  | .uuid, .uuid u =>
    if u.bytes.length = BuilderKind.uuidWidth then .ok (b.push (some (.fixed u.bytes)))
    else .error (.invalidArgument
      "Byte slice does not have the same length as FixedSizeBinaryBuilder value lengths")
  | k, d => .ok (b.push (k.accept d))

/-- The array built so far. -/
def finish (b : ColumnBuilder) : ArrowArray := ⟨b.kind.arrowType, b.slots⟩

end ColumnBuilder

/-- A record batch: schema, row count, and one array per field. -/
structure Batch where
  schema : List Field
  rows : Nat
  arrays : List ArrowArray
  deriving DecidableEq, Repr

namespace Batch

/-- The batch of no rows: an empty array of each field's type. -/
def empty (schema : List Field) : Batch := ⟨schema, 0, schema.map fun f => ⟨f.type, []⟩⟩

/-- The first array that breaks the batch's checks against its schema and row count. -/
def check (schema : List Field) (arrays : List ArrowArray) (rows : Nat) : Option ArrowError :=
  if arrays.length ≠ schema.length then
    some (.invalidArgument ("number of columns(" ++ toString arrays.length ++
      ") must match number of fields(" ++ toString schema.length ++ ") in schema"))
  else match (schema.zip arrays).find? fun (f, a) => !f.nullable && a.slots.contains none with
  | some (f, _) => some (.invalidArgument
      ("Column '" ++ f.name ++ "' is declared as non-nullable but contains null values"))
  | none =>
    if arrays.any (·.slots.length != rows) then
      some (.invalidArgument "all columns in a record batch must have the specified row count")
    else match ((schema.zip arrays).zipIdx.find? fun ((f, a), _) => a.type != f.type) with
    | some ((f, a), i) => some (.invalidArgument ("column types must match schema types, " ++
        "expected " ++ f.type.debugName ++ " but found " ++ a.type.debugName ++
        " at column index " ++ toString i))
    | none => none

/-- Assembles a batch of `rows` rows from one array per field, after the checks. -/
def make (schema : List Field) (arrays : List ArrowArray) (rows : Nat) : Except ArrowError Batch :=
  match check schema arrays rows with
  | some e => .error e
  | none => .ok ⟨schema, rows, arrays⟩

/-- The batch's columns, each slot read as a datum of its field's type. -/
def columns (b : Batch) : List (List Datum) :=
  (b.schema.zip b.arrays).map fun (f, a) => a.slots.map f.read

end Batch

end CqlBridge
