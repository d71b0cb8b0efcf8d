import CqlBridge.Cell.Render
import CqlBridge.Schema.Mapping

/-!
# `CqlBridge.Datum.Decode` — a store value into a column of a declared relational type

Decoding never fails. A NULL cell is NULL of the declared type. Otherwise the value first
becomes the datum of its own type (`Cell.toDatum?`): text as `VARCHAR`, integers at their
width, counters as `BIGINT`, decimals and varints as their exact decimal text, timestamps in
microseconds, raw dates shifted to days since 1970-01-01, times cut to whole microseconds
(toward zero), UUIDs, IP addresses as text, durations as intervals and containers as their
JSON text. `empty`, a decimal or varint without a text, and a timestamp whose microseconds
overflow 64 bits have no such datum; they become their placeholder text in a textual column
and NULL elsewhere.

The datum is then fitted to the declared type (`Datum.fit`):
* the same type: kept;
* a textual type: its text, or the placeholder when it has none;
* integers widen always and narrow when the value fits, else NULL;
* `FLOAT` and `DOUBLE` convert into each other (narrowing rounds to nearest);
* `VARCHAR` becomes `UUID` when the text reads as one, else NULL;
* `BIGINT` milliseconds become a timestamp when the microseconds fit in 64 bits;
* a timestamp becomes the `DATE` of its day (floor division);
* every other pair gives NULL.
-/

namespace CqlBridge

/-- An integer as a 64-bit value, if it fits. -/
def toInt64? (x : Int) : Option Int64 :=
  if -Int.pow 2 63 ≤ x && x < Int.pow 2 63 then some (Int64.ofInt x) else none

/-- An integer as a 32-bit value, if it fits. -/
def toInt32? (x : Int) : Option Int32 :=
  if -Int.pow 2 31 ≤ x && x < Int.pow 2 31 then some (Int32.ofInt x) else none

/-- An integer as a 16-bit value, if it fits. -/
def toInt16? (x : Int) : Option Int16 :=
  if -Int.pow 2 15 ≤ x && x < Int.pow 2 15 then some (Int16.ofInt x) else none

/-- An integer as an 8-bit value, if it fits. -/
def toInt8? (x : Int) : Option Int8 :=
  if -Int.pow 2 7 ≤ x && x < Int.pow 2 7 then some (Int8.ofInt x) else none

namespace Cell

/-- The datum of a value's own type, if it has one. -/
def toDatum? (c : Cell) : Option Datum :=
  match c with
  | .ascii s | .text s => some (.varchar s)
  | .bigint i | .counter i => some (.bigint i)
  | .int i => some (.integer i)
  | .smallint i => some (.smallint i)
  | .tinyint i => some (.tinyint i)
  | .boolean b => some (.boolean b)
  | .float b => some (.float b)
  | .double b => some (.double b)
  | .decimal bs s => (Number.decimalText? bs s.toInt).map .varchar
  | .varint bs => (Number.decimalText? bs 0).map .varchar
  | .timestamp ms => (toInt64? (ms.toInt * 1000)).map .timestamptz
  | .date raw => some (.date (Int32.ofInt (raw.toNat - dateOffset)))
  | .time ns => some (.time (Int64.ofInt (ns.toInt.tdiv 1000)))
  | .uuid u | .timeuuid u => some (.uuid u)
  | .inet a => some (.varchar a.text)
  | .blob bs => some (.blob bs)
  | .duration m d n => some (.interval m d n)
  | .list _ | .set _ | .map _ | .udt .. | .tuple _ => some (.json c.plainText)
  | .empty => none

end Cell

namespace Datum

/-- Text in a textual column: `JSON` keeps it as JSON, `VARCHAR` as text. -/
def ofText (t : SqlType) (s : String) : Datum :=
  if t == .json then .json s else .varchar s

/-- The conversions between different non-textual types; `none` gives NULL. -/
def convert : Datum → SqlType → Option Datum
  | .tinyint i, .smallint => some (.smallint (Int16.ofInt i.toInt))
  | .tinyint i, .integer => some (.integer (Int32.ofInt i.toInt))
  | .tinyint i, .bigint => some (.bigint (Int64.ofInt i.toInt))
  | .smallint i, .integer => some (.integer (Int32.ofInt i.toInt))
  | .smallint i, .bigint => some (.bigint (Int64.ofInt i.toInt))
  | .integer i, .bigint => some (.bigint (Int64.ofInt i.toInt))
  | .smallint i, .tinyint => (toInt8? i.toInt).map .tinyint
  | .integer i, .tinyint => (toInt8? i.toInt).map .tinyint
  | .integer i, .smallint => (toInt16? i.toInt).map .smallint
  | .bigint i, .tinyint => (toInt8? i.toInt).map .tinyint
  | .bigint i, .smallint => (toInt16? i.toInt).map .smallint
  | .bigint i, .integer => (toInt32? i.toInt).map .integer
  | .float b, .double => some (.double (Number.widen b))
  | .double b, .float => some (.float (Number.narrow b))
  | .varchar s, .uuid => (Uuid.parse? s).map .uuid
  | .bigint ms, .timestamptz => (toInt64? (ms.toInt * 1000)).map .timestamptz
  | .timestamptz us, .date => some (.date (Int32.ofInt (us.toInt / 86400000000)))
  | _, _ => none

/-- Fits a datum, which came from a value of protocol type code `code`, to the declared type. -/
def fit (d : Datum) (t : SqlType) (code : Nat) : Datum :=
  if d.sqlType == t then d
  else if t.isTextual then ofText t ((d.text?).getD (TypeCode.placeholder code))
  else (convert d t).getD (.null t)

/-- Decodes a cell into a column of the declared type. -/
def decode (cell : Option Cell) (t : SqlType) : Datum :=
  match cell with
  | none => .null t
  | some c =>
    match c.toDatum? with
    | some d => d.fit t c.code
    | none => if t.isTextual then ofText t (TypeCode.placeholder c.code) else .null t

end Datum

end CqlBridge
