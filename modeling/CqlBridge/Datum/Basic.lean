import CqlBridge.Schema.SqlType
import CqlBridge.Net.Uuid
import CqlBridge.Number.FloatText
import CqlBridge.Codec.Hex
import CqlBridge.Time.Civil

/-!
# `CqlBridge.Datum.Basic` — relational values and their text

A datum is a value of one relational type, or NULL standing in for a value of a given type.
Dates count days from 1970-01-01, times microseconds since midnight, timestamps microseconds
since the epoch in UTC, and intervals months, days and nanoseconds.

`Datum.text?` is the text a datum shows in a `VARCHAR` column: integers in decimal, floats in
plain text, byte strings as `0x` and lower-case hex, dates as `YYYY-MM-DD`, times as
`HH:MM:SS` with 0, 3, 6 or 9 fraction digits, timestamps in RFC 3339 style with the automatic
fraction and `Z`, intervals as `{m}mo{d}d{n}ns`, UUIDs hyphenated. NULL has no text, and
neither has a date, time or timestamp outside the calendar range.
-/

namespace CqlBridge

/-- A relational value. -/
inductive Datum where
  /-- NULL, standing in for a value of the given type. -/
  | null (t : SqlType)
  | boolean (b : Bool)
  | tinyint (i : Int8)
  | smallint (i : Int16)
  | integer (i : Int32)
  | bigint (i : Int64)
  | float (bits : UInt32)
  | double (bits : UInt64)
  | varchar (s : String)
  | json (s : String)
  | blob (bytes : List UInt8)
  /-- Days since 1970-01-01. -/
  | date (days : Int32)
  /-- Microseconds since midnight. -/
  | time (micros : Int64)
  /-- Microseconds since the epoch, UTC. -/
  | timestamptz (micros : Int64)
  | interval (months days : Int32) (nanos : Int64)
  | uuid (u : Uuid)
  deriving Repr, Inhabited

namespace Datum

/-- The relational type of a datum; for NULL, the type it stands in for. -/
def sqlType : Datum → SqlType
  | .null t => t
  | .boolean _ => .boolean
  | .tinyint _ => .tinyint
  | .smallint _ => .smallint
  | .integer _ => .integer
  | .bigint _ => .bigint
  | .float _ => .float
  | .double _ => .double
  | .varchar _ => .varchar
  | .json _ => .json
  | .blob _ => .blob
  | .date _ => .date
  | .time _ => .time
  | .timestamptz _ => .timestamptz
  | .interval .. => .interval
  | .uuid _ => .uuid

/-- Whether a datum is NULL. -/
def isNull : Datum → Bool
  | .null _ => true
  | _ => false

/-- The text of an interval: `{months}mo{days}d{nanos}ns`. -/
def intervalText (months days : Int) (nanos : Int) : String :=
  Number.intText months ++ "mo" ++ Number.intText days ++ "d" ++ Number.intText nanos ++ "ns"

/-- Whether an integer fits in 64-bit two's complement. -/
def fits64 (x : Int) : Bool := -Int.pow 2 63 ≤ x && x < Int.pow 2 63

/-- The text a datum shows in a `VARCHAR` column. -/
def text? : Datum → Option String
  | .null _ => none
  | .boolean b => some (if b then "true" else "false")
  | .tinyint i => some (Number.intText i.toInt)
  | .smallint i => some (Number.intText i.toInt)
  | .integer i => some (Number.intText i.toInt)
  | .bigint i => some (Number.intText i.toInt)
  | .float b => some (Number.plain32 b)
  | .double b => some (Number.plain64 b)
  | .varchar s => some s
  | .json s => some s
  | .blob bs => some ("0x" ++ Codec.encodeHex bs)
  | .date d => Time.dateText? d.toInt
  | .time us =>
    let ns := us.toInt * 1000
    if fits64 ns then Time.timeOfDayText? ns else none
  | .timestamptz us => Time.instantOfMicros? us.toInt
  | .interval m d n => some (intervalText m.toInt d.toInt n.toInt)
  | .uuid u => some u.text

end Datum

end CqlBridge
