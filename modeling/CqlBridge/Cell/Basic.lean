import CqlBridge.Schema.StoreType
import CqlBridge.Net.Uuid
import CqlBridge.Net.Inet
import CqlBridge.Number.Binary

/-!
# `CqlBridge.Cell.Basic` — values as the store delivers them

A cell value carries its own store type: text, integers of four widths and counters,
booleans, binary32 and binary64 numbers (by bit pattern), decimals as a scaled big-endian
two's complement integer, variable-length integers, timestamps in milliseconds, dates as an
unsigned day count centred on 2^31, times of day in nanoseconds, UUIDs, IP addresses, byte
strings, durations, and the containers: lists, sets, maps (entries in order), user-defined
values (fields in order, each possibly missing) and tuples (items possibly missing). `empty`
is the zero-length value of a type that has no empty form.

A *cell* of a row is `Option Cell`: `none` is NULL, which differs from `empty`.
-/

namespace CqlBridge

/-- A value as the store delivers it, tagged with its own store type. -/
inductive Cell where
  | ascii (s : String)
  | text (s : String)
  | bigint (i : Int64)
  | counter (i : Int64)
  | int (i : Int32)
  | smallint (i : Int16)
  | tinyint (i : Int8)
  | boolean (b : Bool)
  | float (bits : UInt32)
  | double (bits : UInt64)
  /-- A big-endian two's complement unscaled value and its scale. -/
  | decimal (unscaled : List UInt8) (scale : Int32)
  /-- A big-endian two's complement integer. -/
  | varint (bytes : List UInt8)
  /-- Milliseconds since the epoch. -/
  | timestamp (ms : Int64)
  /-- Days, with 1970-01-01 at 2^31. -/
  | date (raw : UInt32)
  /-- Nanoseconds since midnight. -/
  | time (ns : Int64)
  | uuid (u : Uuid)
  | timeuuid (u : Uuid)
  | inet (a : IpAddr)
  | blob (bytes : List UInt8)
  | duration (months days : Int32) (nanos : Int64)
  | list (items : List Cell)
  | set (items : List Cell)
  | map (entries : List (Cell × Cell))
  | udt (typeName : String) (fields : List (String × Option Cell))
  | tuple (items : List (Option Cell))
  | empty
  deriving Repr, Inhabited

namespace Cell

/-- The protocol type code of a value's own type; `empty` has the code for "unknown". -/
def code : Cell → Nat
  | .ascii _ => Scalar.ascii.code
  | .text _ => Scalar.text.code
  | .bigint _ => Scalar.bigint.code
  | .counter _ => Scalar.counter.code
  | .int _ => Scalar.int.code
  | .smallint _ => Scalar.smallint.code
  | .tinyint _ => Scalar.tinyint.code
  | .boolean _ => Scalar.boolean.code
  | .float _ => Scalar.float.code
  | .double _ => Scalar.double.code
  | .decimal .. => Scalar.decimal.code
  | .varint _ => Scalar.varint.code
  | .timestamp _ => Scalar.timestamp.code
  | .date _ => Scalar.date.code
  | .time _ => Scalar.time.code
  | .uuid _ => Scalar.uuid.code
  | .timeuuid _ => Scalar.timeuuid.code
  | .inet _ => Scalar.inet.code
  | .blob _ => Scalar.blob.code
  | .duration .. => Scalar.duration.code
  | .list _ => TypeCode.list
  | .set _ => TypeCode.set
  | .map _ => TypeCode.map
  | .udt .. => TypeCode.udt
  | .tuple _ => TypeCode.tuple
  | .empty => TypeCode.unknown

/-- The date offset: the raw day count of 1970-01-01. -/
def dateOffset : Int := Int.pow 2 31

end Cell

end CqlBridge
