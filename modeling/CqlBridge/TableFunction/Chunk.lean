import CqlBridge.Scan.Arrow

/-!
# `CqlBridge.TableFunction.Chunk` — batches copied into the engine's chunks

The engine takes a table function's rows as a *chunk*: one vector per output column and a row
count. A vector holds a slot of its column's physical type and a validity flag for every row;
the engine reads a row only below the count, as NULL where its flag is down and as its slot
otherwise. The chunk handed to a call has been reset: every flag up, count zero, and the slots
holding whatever the previous call left there.

`writeBatch` copies a columnar batch into such a chunk, column by column, each relational type
by its own arm:

| relational type | slot | rows written |
|---|---|---|
| `BOOLEAN` | `bool` | every row: the value, `false` under a null |
| integers, floats, `DATE`, `TIME`, `TIMESTAMP WITH TIME ZONE` | `i8` … `f64` | the whole value buffer, the zeros under nulls included |
| `VARCHAR`, `JSON` | `str` | valid rows |
| `BLOB` | `bytes` | valid rows |
| `INTERVAL` | `interval` | every row: months, days, and nanoseconds / 1000 toward zero |
| `UUID` | `hugeint` | valid rows, through `uuidToHugeint`, stopping at bytes of another length than 16 |

After a column's values the writer flags that column's null rows, so a null row never shows a
value left from before; last, it sets the count to the batch's rows. A batch with another number
of columns than the types bound is refused before anything is written.

A UUID is stored as a signed 128-bit integer (`Hugeint`): its 16 bytes read as one big-endian
number, with the top bit flipped, so that the engine's signed order is the order of the bytes.
The engine reads it back by flipping that bit again (`Hugeint.toUuid`).

Two failures crash the writer: an array whose type is not the one its column's arm reads (a
failed downcast), and more rows than a vector holds, where the arms index past the vector's end.

Chunks, vectors and their reset are the engine's, modelled as the writer uses them; what is
proved of a copied chunk holds of the engine as far as it keeps that contract.
-/

namespace CqlBridge

/-! ## 128-bit integers -/

/-- A signed 128-bit integer as the engine stores it: the low 64 bits unsigned and the high 64
bits signed. -/
structure Hugeint where
  lower : UInt64
  upper : Int64
  deriving DecidableEq, Repr

namespace Hugeint

/-- The engine's order of hugeints: by the upper halves as signed numbers, then by the lower
halves as unsigned ones. -/
instance : LT Hugeint := ⟨fun a b => a.upper < b.upper ∨ a.upper = b.upper ∧ a.lower < b.lower⟩

instance (a b : Hugeint) : Decidable (a < b) :=
  inferInstanceAs (Decidable (a.upper < b.upper ∨ a.upper = b.upper ∧ a.lower < b.lower))

/-- The 128 bits of a hugeint as an unsigned number, the upper half's bits above the lower
half's. -/
def bits (h : Hugeint) : Nat := h.upper.toUInt64.toNat * Nat.pow 2 64 + h.lower.toNat

/-- The UUID the engine reads from a hugeint: its bits with bit 127 flipped back, written most
significant byte first. -/
def toUuid (h : Hugeint) : Uuid := Uuid.ofNat (h.bits ^^^ Nat.pow 2 127)

end Hugeint

/-- The hugeint stored for a UUID: its bytes read as one big-endian 128-bit number, the low half
kept and the high half with its top bit flipped, read as signed. -/
def Uuid.toHugeint (u : Uuid) : Hugeint :=
  let value := u.toNat
  { lower := UInt64.ofNat value
    upper := (UInt64.ofNat (value >>> 64) ^^^ ((1 : UInt64) <<< 63)).toInt64 }

/-! ## Slots, vectors and chunks -/

/-- Why copying a batch into a chunk fails. -/
inductive ChunkError where
  /-- The batch does not fit the bound columns. -/
  | schema (detail : String)
  /-- The writer panics. -/
  | crash
  deriving DecidableEq, Repr

/-- The words of a refusal. -/
def ChunkError.message : ChunkError → String
  | .schema detail => "Schema mismatch: " ++ detail
  | .crash => ""

/-- The hugeint of a UUID's bytes; bytes of another length than 16 are refused. -/
def uuidToHugeint (bytes : List UInt8) : Except ChunkError Hugeint :=
  if h : bytes.length = 16 then .ok (Uuid.toHugeint ⟨bytes, h⟩)
  else .error (.schema ("UUID must be 16 bytes, got " ++ toString bytes.length))

/-- What a slot of a vector holds, by the physical type of its column. -/
inductive Slot where
  | bool (b : Bool)
  | i8 (v : Int8)
  | i16 (v : Int16)
  | i32 (v : Int32)
  | i64 (v : Int64)
  | f32 (bits : UInt32)
  | f64 (bits : UInt64)
  | str (s : String)
  | bytes (b : List UInt8)
  /-- Months, days and microseconds. -/
  | interval (months days : Int32) (micros : Int64)
  | hugeint (h : Hugeint)
  deriving DecidableEq, Repr, Inhabited

/-- The rows one vector holds. -/
def vectorCapacity : Nat := 2048

/-- A vector of a chunk: a slot and a validity flag for every row. -/
structure ChunkVector where
  slot : Nat → Slot
  valid : Nat → Bool

namespace ChunkVector

/-- Writes `g r` into every row `r` below `n` for which it gives a slot; a loop over the rows
whose writes do not depend on each other. -/
def fill (v : ChunkVector) (n : Nat) (g : Nat → Option Slot) : ChunkVector :=
  { v with slot := fun r => if r < n then (g r).getD (v.slot r) else v.slot r }

/-- Copies a whole buffer into the rows `0, 1, …`. -/
def copy (v : ChunkVector) (xs : List Slot) : ChunkVector := v.fill xs.length fun r => xs[r]?

/-- Writes one slot. -/
def write (v : ChunkVector) (r : Nat) (x : Slot) : ChunkVector :=
  { v with slot := fun i => if i = r then x else v.slot i }

/-- Flags null every row below `n` that `null` picks. -/
def flagNulls (v : ChunkVector) (n : Nat) (null : Nat → Bool) : ChunkVector :=
  { v with valid := fun r => if r < n && null r then false else v.valid r }

/-- Every flag up, the slots kept. -/
def reset (v : ChunkVector) : ChunkVector := { v with valid := fun _ => true }

end ChunkVector

/-- A chunk: one vector per column and the number of rows it holds. -/
structure Chunk where
  vectors : List ChunkVector
  size : Nat

namespace Chunk

/-- A chunk of `width` columns that has held nothing yet. -/
def empty (width : Nat) : Chunk := ⟨List.replicate width ⟨fun _ => default, fun _ => true⟩, 0⟩

/-- The chunk handed to the next call: every flag up and the count zero, the slots kept. -/
def reset (ch : Chunk) : Chunk := ⟨ch.vectors.map (·.reset), 0⟩

/-- The cell of column `j` in row `r`: `none` for NULL. -/
def cell (ch : Chunk) (j r : Nat) : Option Slot :=
  match ch.vectors[j]? with
  | some v => if v.valid r then some (v.slot r) else none
  | none => none

end Chunk

/-! ## Writing a batch -/

/-- Whether a column's arm can read an array of this columnar type: its own type, with any
zone for timestamps and any width for UUIDs. -/
def SqlType.readsArrow : SqlType → ArrowType → Bool
  | .timestamptz, .timestampMicros _ => true
  | .uuid, .fixedSizeBinary _ => true
  | t, a => t.toArrow == a

/-- The value buffer of a primitive array as slots: each value's slot, and `zero` under a null.
The arm reads every value as its own type, so a value of another kind reads as `zero` too. -/
def ArrowArray.natives (a : ArrowArray) (zero : Slot) (native : ArrowValue → Option Slot) :
    List Slot :=
  a.slots.map fun s => (s.bind native).getD zero

/-- The UUID arm from row `r` on: the hugeint of every valid row's bytes, in row order, stopping
at the first bytes that are not 16 long. -/
def writeUuids (v : ChunkVector) : Nat → List (Option ArrowValue) →
    ChunkVector × Except ChunkError Unit
  | _, [] => (v, .ok ())
  | r, some (.fixed bs) :: rest =>
    match uuidToHugeint bs with
    | .ok h => writeUuids (v.write r (.hugeint h)) (r + 1) rest
    | .error e => (v, .error e)
  | r, _ :: rest => writeUuids v (r + 1) rest

/-- The arm of a column's type writes its values into the vector. -/
def writeValues (rows : Nat) (a : ArrowArray) (v : ChunkVector) :
    SqlType → ChunkVector × Except ChunkError Unit
  | .boolean =>
    (v.fill rows fun r => some (.bool (match a.slots[r]? with
      | some (some (.boolean b)) => b
      | _ => false)), .ok ())
  | .tinyint => (v.copy (a.natives (.i8 0) fun
      | .int8 i => some (.i8 i)
      | _ => none), .ok ())
  | .smallint => (v.copy (a.natives (.i16 0) fun
      | .int16 i => some (.i16 i)
      | _ => none), .ok ())
  | .integer => (v.copy (a.natives (.i32 0) fun
      | .int32 i => some (.i32 i)
      | _ => none), .ok ())
  | .bigint => (v.copy (a.natives (.i64 0) fun
      | .int64 i => some (.i64 i)
      | _ => none), .ok ())
  | .float => (v.copy (a.natives (.f32 0) fun
      | .float32 b => some (.f32 b)
      | _ => none), .ok ())
  | .double => (v.copy (a.natives (.f64 0) fun
      | .float64 b => some (.f64 b)
      | _ => none), .ok ())
  | .date => (v.copy (a.natives (.i32 0) fun
      | .date32 d => some (.i32 d)
      | _ => none), .ok ())
  | .time => (v.copy (a.natives (.i64 0) fun
      | .time64 us => some (.i64 us)
      | _ => none), .ok ())
  | .timestamptz => (v.copy (a.natives (.i64 0) fun
      | .timestamp us => some (.i64 us)
      | _ => none), .ok ())
  | .varchar | .json =>
    (v.fill rows fun r => match a.slots[r]? with
      | some (some (.utf8 s)) => some (.str s)
      | _ => none, .ok ())
  | .blob =>
    (v.fill rows fun r => match a.slots[r]? with
      | some (some (.binary bs)) => some (.bytes bs)
      | _ => none, .ok ())
  | .interval =>
    (v.fill (min rows a.slots.length) fun r => some (match a.slots[r]? with
      | some (some (.monthDayNano m d n)) => .interval m d (n / 1000)
      | _ => .interval 0 0 0), .ok ())
  | .uuid => writeUuids v 0 (a.slots.take rows)

/-- Writes one column of `rows` rows into its vector as its type's arm does, then flags the
column's null rows. -/
def writeColumn (rows : Nat) (a : ArrowArray) (t : SqlType) (v : ChunkVector) :
    ChunkVector × Except ChunkError Unit :=
  if vectorCapacity < rows || !t.readsArrow a.type then (v, .error .crash)
  else
    match writeValues rows a v t with
    | (v, .ok ()) =>
      (v.flagNulls rows fun r => a.slots[r]? == some none, .ok ())
    | (v, .error e) => (v, .error e)

/-- Writes the columns from index `j` on, in order, stopping at the first failure. -/
def writeColumns (rows : Nat) : Nat → List (ArrowArray × SqlType) → Chunk →
    Chunk × Except ChunkError Unit
  | _, [], out => (out, .ok ())
  | j, (a, t) :: rest, out =>
    match out.vectors[j]? with
    | none => (out, .error .crash)
    | some v =>
      match writeColumn rows a t v with
      | (v, .ok ()) => writeColumns rows (j + 1) rest { out with vectors := out.vectors.set j v }
      | (v, .error e) => ({ out with vectors := out.vectors.set j v }, .error e)

/-- Copies a batch into a chunk of the bound types. -/
def writeBatch (batch : Batch) (types : List SqlType) (out : Chunk) :
    Chunk × Except ChunkError Unit :=
  if batch.arrays.length ≠ types.length then
    (out, .error (.schema ("batch has " ++ toString batch.arrays.length ++ " columns, " ++
      toString types.length ++ " were bound")))
  else
    match writeColumns batch.rows 0 (batch.arrays.zip types) out with
    | (out, .ok ()) => ({ out with size := batch.rows }, .ok ())
    | (out, .error e) => (out, .error e)

end CqlBridge
