import CqlBridge.Sql.Ty
import CqlBridge.Datum.Basic
import CqlBridge.Number.Arith

/-!
# `CqlBridge.Sql.Val` — the values of the relational engine, and their order

A value carries no type of its own: a column's type says how to read it. Integers of every
width are mathematical integers, floating-point numbers are bit patterns, a decimal is its
unscaled integer (the column type holds the scale), dates count days from 1970-01-01, times
microseconds since midnight, timestamps microseconds since the epoch, intervals months, days
and microseconds, and a UUID is its 128 bits read as an unsigned number.

`Val.cmp` orders two non-null values of one type the way sorting and grouping see them:
numbers by value, with both zeros equal and NaN above every other number; text and bytes
lexicographically; UUIDs as unsigned numbers; intervals after moving whole days of
microseconds into days and whole 30-day months into months; nested values element by element,
a shorter list first when one is a prefix of the other.
-/

namespace CqlBridge.Sql

/-- A value of the engine. -/
inductive Val where
  | null
  | bool (b : Bool)
  | int (i : Int)
  | float (bits : UInt32)
  | double (bits : UInt64)
  /-- A fixed-point number by its unscaled integer. -/
  | decimal (unscaled : Int)
  | text (s : String)
  | blob (bytes : List UInt8)
  /-- Days since 1970-01-01. -/
  | date (days : Int)
  /-- Microseconds since midnight. -/
  | time (micros : Int)
  /-- Microseconds since 1970-01-01 00:00:00 UTC. -/
  | stamp (micros : Int)
  | interval (months days micros : Int)
  /-- A UUID as its bits, most significant first, read as an unsigned number. -/
  | uuid (bits : Nat)
  | list (items : List Val)
  | struct (fields : List Val)
  | map (entries : List (Val × Val))
  deriving Repr, Inhabited

/-- A column of a relation: a name and a type. -/
structure Column where
  name : String
  ty : Ty
  deriving Repr, Inhabited

/-- A row: one value per column. -/
abbrev Row := List Val

/-- Rows with their columns. -/
structure Relation where
  columns : List Column
  rows : List Row
  deriving Inhabited

namespace Val

/-- Whether a value is NULL. -/
def isNull : Val → Bool
  | .null => true
  | _ => false

/-- Microseconds in a day. -/
def microsPerDay : Int := 86400000000

/-- Microseconds in a 30-day month. -/
def microsPerMonth : Int := 30 * microsPerDay

/-- Division truncating toward zero, as machine integers divide. -/
def tdiv (a b : Int) : Int := Int.tdiv a b

/-- Remainder of `tdiv`, with the sign of the dividend. -/
def tmod (a b : Int) : Int := Int.tmod a b

/-- An interval with whole days of microseconds moved into days and whole 30-day months of days
and microseconds moved into months, so that equal lengths compare equal. -/
def normalizeInterval (months days micros : Int) : Int × Int × Int :=
  let monthsOfDays := tdiv days 30
  let days := tmod days 30
  let monthsOfMicros := tdiv micros microsPerMonth
  let micros := tmod micros microsPerMonth
  let daysOfMicros := tdiv micros microsPerDay
  let micros := tmod micros microsPerDay
  (months + monthsOfDays + monthsOfMicros, days + daysOfMicros, micros)

/-- Lexicographic order on two keys. -/
def thenCmp (a : Ordering) (b : Unit → Ordering) : Ordering :=
  match a with
  | .eq => b ()
  | o => o

/-- The order of two byte strings. -/
def bytesCmp : List UInt8 → List UInt8 → Ordering
  | [], [] => .eq
  | [], _ => .lt
  | _, [] => .gt
  | a :: as, b :: bs => thenCmp (compare a b) fun _ => bytesCmp as bs

mutual

/-- The order of two non-null values of one type. -/
def cmp : Val → Val → Ordering
  | .null, .null => .eq
  | .null, _ => .gt
  | _, .null => .lt
  | .bool a, .bool b => compare a b
  | .int a, .int b => compare a b
  | .float a, .float b =>
    compare (Number.BinaryFormat.binary32.orderKey a.toNat)
      (Number.BinaryFormat.binary32.orderKey b.toNat)
  | .double a, .double b =>
    compare (Number.BinaryFormat.binary64.orderKey a.toNat)
      (Number.BinaryFormat.binary64.orderKey b.toNat)
  | .decimal a, .decimal b => compare a b
  | .text a, .text b => compare a b
  | .blob a, .blob b => bytesCmp a b
  | .date a, .date b | .time a, .time b | .stamp a, .stamp b => compare a b
  | .interval m d u, .interval m' d' u' =>
    let (a1, a2, a3) := normalizeInterval m d u
    let (b1, b2, b3) := normalizeInterval m' d' u'
    thenCmp (compare a1 b1) fun _ => thenCmp (compare a2 b2) fun _ => compare a3 b3
  | .uuid a, .uuid b => compare a b
  | .list as, .list bs | .struct as, .struct bs => listCmp as bs
  | .map as, .map bs => entriesCmp as bs
  | _, _ => .eq

/-- The order of two lists of values, element by element. -/
def listCmp : List Val → List Val → Ordering
  | [], [] => .eq
  | [], _ => .lt
  | _, [] => .gt
  | a :: as, b :: bs => thenCmp (cmp a b) fun _ => listCmp as bs

/-- The order of two lists of map entries, entry by entry. -/
def entriesCmp : List (Val × Val) → List (Val × Val) → Ordering
  | [], [] => .eq
  | [], _ => .lt
  | _, [] => .gt
  | (k, v) :: as, (k', v') :: bs =>
    thenCmp (cmp k k') fun _ => thenCmp (cmp v v') fun _ => entriesCmp as bs

end

/-- Whether two values are the same for grouping: NULLs are equal to each other. -/
def same (a b : Val) : Bool := cmp a b == .eq

/-- The order of two rows, column by column. -/
def rowCmp (a b : Row) : Ordering := listCmp a b

/-- The value of a relational datum from a scan, with interval nanoseconds cut to whole
microseconds toward zero. -/
def ofDatum : Datum → Val
  | .null _ => .null
  | .boolean b => .bool b
  | .tinyint i => .int i.toInt
  | .smallint i => .int i.toInt
  | .integer i => .int i.toInt
  | .bigint i => .int i.toInt
  | .float b => .float b
  | .double b => .double b
  | .varchar s | .json s => .text s
  | .blob bs => .blob bs
  | .date d => .date d.toInt
  | .time us => .time us.toInt
  | .timestamptz us => .stamp us.toInt
  | .interval m d ns => .interval m.toInt d.toInt (tdiv ns.toInt 1000)
  | .uuid u => .uuid u.toNat

end Val

example : Val.cmp (.double 0x7ff8000000000000) (.double 0x7ff0000000000000) = .gt := by decide
example : Val.cmp (.double 0x8000000000000000) (.double 0) = .eq := by decide

end CqlBridge.Sql
