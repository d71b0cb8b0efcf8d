import Mathlib.Data.List.Forall2
import CqlBridge.TableFunction.Host
import CqlBridge.Proofs.ScanFailure

/-!
# `CqlBridge.Proofs.ChunkTransfer` — every cell of a batch reaches the engine's chunk

A batch *fits* the bound column types (`Batch.Fits`) when it has one array per type, each of
the type's columnar type with one slot per row and every value of that type (a UUID of 16
bytes), and no more rows than a vector holds. Into a chunk the engine hands over, every flag
up, `writeBatch` copies such a batch whole (`Chunk.Holds`): the chunk's count is the row count,
a null slot is a NULL cell, and any other slot is its value's slot (`Slot.ofArrow`):

| value | slot |
|---|---|
| booleans, integers, floats, text, bytes | the value itself |
| `Date32`, `Time64`, `Timestamp` | the 32- or 64-bit integer it stores |
| month-day-nano interval | months and days, nanoseconds / 1000 rounded toward zero |
| fixed-size binary | the hugeint of the 16 bytes (`Uuid.toHugeint`) |

The three disciplines of the type arms (a boolean written in every row, a primitive buffer
copied whole with whatever lies under its nulls, text, bytes and UUIDs written only for valid
rows) all leave a valid row's value in its slot, and the nulls flagged afterwards hide the
rest.

Every batch the executor answers fits its bound columns, so over the engine's successive calls
(`BridgeCall.fillCalls`) of one bound scan the executor is made once and each chunk holds the
next of its batches (`FilledFrom`): no call refuses the batch it pulled, once a chunk comes back
empty every later one does, and the statement runs once for the whole scan.

What a chunk holds is read through the model of the engine's chunks and vectors
(`CqlBridge.TableFunction.Chunk`): these results hold of the engine as far as it keeps the
contract that module states.
-/

namespace CqlBridge

/-! ## What a batch holds, and what a chunk should hold -/

/-- Whether a value can stand in an array of a columnar type: a value of that type, and for
fixed-size binary one of the array's width. -/
def ArrowValue.fits : ArrowType → ArrowValue → Bool
  | .boolean, .boolean _ | .int8, .int8 _ | .int16, .int16 _ | .int32, .int32 _
  | .int64, .int64 _ | .float32, .float32 _ | .float64, .float64 _ | .utf8, .utf8 _
  | .binary, .binary _ | .date32, .date32 _ | .time64Micros, .time64 _
  | .timestampMicros _, .timestamp _ | .intervalMonthDayNano, .monthDayNano .. => true
  | .fixedSizeBinary w, .fixed bs => bs.length == w
  | _, _ => false

/-- An array of a column of type `t`: the type's columnar type, `rows` slots, and every value
of the array's type. -/
structure ArrowArray.Holds (a : ArrowArray) (t : SqlType) (rows : Nat) : Prop where
  type : a.type = t.toArrow
  length : a.slots.length = rows
  fits : ∀ x, some x ∈ a.slots → x.fits a.type

/-- A batch fits the bound types: one array per type, each holding a column of it, and no more
rows than a vector holds. -/
structure Batch.Fits (b : Batch) (types : List SqlType) : Prop where
  columns : List.Forall₂ (fun a t => a.Holds t b.rows) b.arrays types
  rows_le : b.rows ≤ vectorCapacity

/-- The slot a columnar value belongs in: the value itself, a date or time as the integer it
stores, an interval's nanoseconds as microseconds rounded toward zero, and the 16 bytes of a
UUID as its hugeint. -/
def Slot.ofArrow : ArrowValue → Slot
  | .boolean b => .bool b
  | .int8 i => .i8 i
  | .int16 i => .i16 i
  | .int32 i => .i32 i
  | .int64 i => .i64 i
  | .float32 b => .f32 b
  | .float64 b => .f64 b
  | .utf8 s => .str s
  | .binary bs => .bytes bs
  | .date32 d => .i32 d
  | .time64 us => .i64 us
  | .timestamp us => .i64 us
  | .monthDayNano m d n => .interval m d (Int64.ofInt (n.toInt.tdiv 1000))
  | .fixed bs => .hugeint (Uuid.ofBytes bs).toHugeint

/-- What a vector shows in row `r`: `none` for NULL. -/
def ChunkVector.read (v : ChunkVector) (r : Nat) : Option Slot :=
  if v.valid r then some (v.slot r) else none

/-- A chunk holds a batch: its count is the batch's rows, and each cell is NULL for a null slot
and the value's slot otherwise. -/
structure Chunk.Holds (ch : Chunk) (b : Batch) : Prop where
  size : ch.size = b.rows
  cells : ∀ j a, b.arrays[j]? = some a → ∀ r s, a.slots[r]? = some s →
    ch.cell j r = s.map Slot.ofArrow

/-- Every flag of every vector is up, as in a chunk the engine hands over. -/
def Chunk.AllValid (ch : Chunk) : Prop := ∀ v ∈ ch.vectors, ∀ r, v.valid r = true

theorem Chunk.cell_eq_read (ch : Chunk) (j r : Nat) :
    ch.cell j r = ch.vectors[j]?.bind (·.read r) := by
  unfold Chunk.cell
  cases ch.vectors[j]? <;> rfl

@[simp] theorem Chunk.allValid_reset (ch : Chunk) : ch.reset.AllValid := by
  intro v hv r
  obtain ⟨w, -, rfl⟩ := List.mem_map.1 hv
  rfl

@[simp] theorem Chunk.length_reset (ch : Chunk) : ch.reset.vectors.length = ch.vectors.length := by
  simp [Chunk.reset]

theorem Int64.div_eq_ofInt_tdiv (n m : Int64) : n / m = Int64.ofInt (n.toInt.tdiv m.toInt) := by
  rw [← Int64.toInt_inj, Int64.toInt_div, Int64.toInt_ofInt]

theorem Uuid.ofBytes_of_length {bs : List UInt8} (h : bs.length = 16) :
    Uuid.ofBytes bs = ⟨bs, h⟩ := by
  simp only [Uuid.ofBytes, Uuid.mk.injEq]
  exact List.take_left' h

theorem SqlType.readsArrow_toArrow (t : SqlType) : t.readsArrow t.toArrow = true := by
  cases t <;> rfl

/-! ## One column

Each type arm writes every value of a column of its type into the value's slot: a loop over
the rows writes each row's value where it gives one, copying a whole value buffer writes each
value where the arm reads it as its own kind, the UUID arm writes the hugeint of each value and
touches no earlier row, and the interval arm's division by a thousand truncates toward zero. -/

namespace ChunkVector

/-- What a type arm leaves in a vector for an array: the flags as they were, and in every row
with a value, the value's slot. -/
structure Written (v v' : ChunkVector) (a : ArrowArray) : Prop where
  valid : v'.valid = v.valid
  slots : ∀ r x, a.slots[r]? = some (some x) → v'.slot r = Slot.ofArrow x

theorem written_fill {v : ChunkVector} {a : ArrowArray} {n : Nat} {g : Nat → Option Slot}
    (hg : ∀ r x, a.slots[r]? = some (some x) → r < n ∧ g r = some (Slot.ofArrow x)) :
    v.Written (v.fill n g) a := by
  refine ⟨rfl, fun r x hr => ?_⟩
  obtain ⟨hlt, hgr⟩ := hg r x hr
  simp [fill, hlt, hgr]

theorem written_copy {v : ChunkVector} {a : ArrowArray} {zero : Slot}
    {native : ArrowValue → Option Slot}
    (hnative : ∀ x, some x ∈ a.slots → native x = some (Slot.ofArrow x)) :
    v.Written (v.copy (a.natives zero native)) a := by
  apply written_fill
  intro r x hr
  have hlt : r < a.slots.length := (List.getElem?_eq_some_iff.1 hr).1
  refine ⟨by simpa [ArrowArray.natives] using hlt, ?_⟩
  simp [ArrowArray.natives, hr, hnative x (List.mem_of_getElem? hr)]

end ChunkVector

theorem writeUuids_written (l : List (Option ArrowValue))
    (hl : ∀ x, some x ∈ l → x.fits (.fixedSizeBinary 16)) :
    ∀ (v : ChunkVector) (k : Nat), ∃ v', writeUuids v k l = (v', .ok ()) ∧ v'.valid = v.valid ∧
      (∀ r < k, v'.slot r = v.slot r) ∧
      ∀ i x, l[i]? = some (some x) → v'.slot (k + i) = Slot.ofArrow x := by
  -- over the slots, with the vector and the row left universal
  induction l with
  | nil => exact fun v k => ⟨v, rfl, rfl, fun _ _ => rfl, fun i x h => by simp at h⟩
  | cons s rest ih =>
      intro v k
      have hrest : ∀ x, some x ∈ rest → x.fits (.fixedSizeBinary 16) :=
        fun x hx => hl x (List.mem_cons_of_mem _ hx)
      cases s with
      | none =>
          obtain ⟨v', hw, hvalid, hframe, hslots⟩ := ih hrest v (k + 1)
          refine ⟨v', by simp [writeUuids, hw], hvalid, fun r hr => hframe r (by omega), ?_⟩
          rintro (_ | i) x hx
          · simp at hx
          · rw [show k + (i + 1) = k + 1 + i by omega]
            exact hslots i x (by simpa using hx)
      | some x =>
          -- a value of the array is 16 bytes, so its conversion succeeds
          obtain ⟨bs, rfl, hbs⟩ : ∃ bs, x = .fixed bs ∧ bs.length = 16 := by
            have hx := hl x List.mem_cons_self
            cases x <;> first
              | exact absurd hx Bool.false_ne_true
              | exact ⟨_, rfl, by simpa [ArrowValue.fits] using hx⟩
          let h := Uuid.toHugeint ⟨bs, hbs⟩
          obtain ⟨v', hw, hvalid, hframe, hslots⟩ := ih hrest (v.write k (.hugeint h)) (k + 1)
          refine ⟨v', ?_, hvalid, ?_, ?_⟩
          · simp [writeUuids, uuidToHugeint, hbs, hw, h]
          · intro r hr
            rw [hframe r (by omega)]
            simp [ChunkVector.write, Nat.ne_of_lt hr]
          · rintro (_ | i) y hy
            · obtain rfl : y = .fixed bs := by simpa using hy.symm
              rw [Nat.add_zero, hframe k (by omega)]
              simp [ChunkVector.write, Slot.ofArrow, Uuid.ofBytes_of_length hbs, h]
            · rw [show k + (i + 1) = k + 1 + i by omega]
              exact hslots i y (by simpa using hy)

theorem writeValues_written {rows : Nat} {a : ArrowArray} {t : SqlType} (h : a.Holds t rows)
    (v : ChunkVector) : ∃ v', writeValues rows a v t = (v', .ok ()) ∧ v.Written v' a := by
  have hfits : ∀ x, some x ∈ a.slots → x.fits t.toArrow := fun x hx => h.type ▸ h.fits x hx
  have hrow : ∀ r x, a.slots[r]? = some (some x) → r < rows := fun r x hr =>
    h.length ▸ (List.getElem?_eq_some_iff.1 hr).1
  -- in each arm the value's kind is fixed by the column type; the other kinds do not fit
  cases t
  -- the arms that copy the whole value buffer
  case tinyint | smallint | integer | bigint | float | double | date | time | timestamptz =>
    refine ⟨_, rfl, ChunkVector.written_copy fun x hx => ?_⟩
    have hx' := hfits x hx
    cases x <;> first | exact absurd hx' Bool.false_ne_true | rfl
  -- the arms that loop over the rows below the count
  case boolean | varchar | json | blob =>
    refine ⟨_, rfl, ChunkVector.written_fill fun r x hr => ⟨hrow r x hr, ?_⟩⟩
    have hx' := hfits x (List.mem_of_getElem? hr)
    cases x <;> first | exact absurd hx' Bool.false_ne_true | simp [hr, Slot.ofArrow]
  case interval =>
    refine ⟨_, rfl, ChunkVector.written_fill fun r x hr => ⟨?_, ?_⟩⟩
    · have := hrow r x hr
      have := h.length
      simp only [Nat.lt_min]
      omega
    have hx' := hfits x (List.mem_of_getElem? hr)
    cases x <;> first
      | exact absurd hx' Bool.false_ne_true
      | simp [hr, Slot.ofArrow, Int64.div_eq_ofInt_tdiv]
  case uuid =>
    have htake : a.slots.take rows = a.slots := List.take_of_length_le (Nat.le_of_eq h.length)
    obtain ⟨v', hw, hvalid, -, hslots⟩ := writeUuids_written a.slots hfits v 0
    refine ⟨v', by simp [writeValues, htake, hw], hvalid, fun r x hr => ?_⟩
    simpa using hslots r x hr

/-- **One column.** Into a vector with every flag up, a column of its type with no more rows
than the vector holds is written whole: each row reads NULL for a null slot and the value's
slot otherwise. -/
theorem writeColumn_reads {rows : Nat} {a : ArrowArray} {t : SqlType} (h : a.Holds t rows)
    (hrows : rows ≤ vectorCapacity) {v : ChunkVector} (hvalid : ∀ r, v.valid r = true) :
    ∃ v', writeColumn rows a t v = (v', .ok ()) ∧
      ∀ r s, a.slots[r]? = some s → v'.read r = s.map Slot.ofArrow := by
  obtain ⟨v', hw, hwritten⟩ := writeValues_written h v
  have hgo : (vectorCapacity < rows || !t.readsArrow a.type) = false := by
    simp [h.type, SqlType.readsArrow_toArrow]
    omega
  refine ⟨v'.flagNulls rows fun r => a.slots[r]? == some none,
    by simp only [writeColumn, hgo, hw, Bool.false_eq_true, ite_false], ?_⟩
  intro r s hs
  have hr : r < rows := h.length ▸ (List.getElem?_eq_some_iff.1 hs).1
  -- the flags are the writer's null flags over a vector whose flags were all up
  cases s with
  | none => simp [ChunkVector.read, ChunkVector.flagNulls, hr, hs]
  | some x =>
      simp [ChunkVector.read, ChunkVector.flagNulls, hs, hwritten.valid, hvalid,
        hwritten.slots r x hs]

/-! ## A whole batch -/

/-- What writing the columns from index `j` on leaves in a chunk: the count and the number of
vectors as they were, the vectors before `j` untouched, and in column `j + k` the `k`-th
array. -/
structure Chunk.ColumnsWritten (j : Nat) (l : List (ArrowArray × SqlType)) (out out' : Chunk) :
    Prop where
  size : out'.size = out.size
  width : out'.vectors.length = out.vectors.length
  before : ∀ i < j, out'.vectors[i]? = out.vectors[i]?
  cells : ∀ k p, l[k]? = some p → ∀ r s, p.1.slots[r]? = some s →
    out'.cell (j + k) r = s.map Slot.ofArrow

theorem writeColumns_written (rows : Nat) (hrows : rows ≤ vectorCapacity) :
    ∀ (l : List (ArrowArray × SqlType)) (j : Nat) (out : Chunk),
      (∀ p ∈ l, p.1.Holds p.2 rows) → j + l.length ≤ out.vectors.length →
      (∀ i v, j ≤ i → out.vectors[i]? = some v → ∀ r, v.valid r = true) →
      ∃ out', writeColumns rows j l out = (out', .ok ()) ∧ out.ColumnsWritten j l out' := by
  intro l
  -- over the columns, with the index and the chunk left universal
  induction l with
  | nil => exact fun j out _ _ _ => ⟨out, rfl, rfl, rfl, fun _ _ => rfl, fun k p h => by simp at h⟩
  | cons p rest ih =>
      obtain ⟨a, t⟩ := p
      intro j out hl hlen hvalid
      have hj : j < out.vectors.length := by
        simp at hlen
        omega
      obtain ⟨v, hv⟩ : ∃ v, out.vectors[j]? = some v := ⟨out.vectors[j], List.getElem?_eq_getElem hj⟩
      obtain ⟨v', hw, hread⟩ :=
        writeColumn_reads (hl (a, t) List.mem_cons_self) hrows (hvalid j v (Nat.le_refl j) hv)
      let mid : Chunk := { out with vectors := out.vectors.set j v' }
      have hmid : ∀ i, i ≠ j → mid.vectors[i]? = out.vectors[i]? := fun i hi =>
        List.getElem?_set_ne (Ne.symm hi)
      obtain ⟨out', hw', hdone⟩ := ih (j + 1) mid (fun q hq => hl q (List.mem_cons_of_mem _ hq))
        (by simp [mid] at hlen ⊢; omega)
        (fun i w hi hw => hvalid i w (by omega) (by rwa [hmid i (by omega)] at hw))
      refine ⟨out', by simp [writeColumns, hv, hw, hw', mid], ?_⟩
      have hj' : out'.vectors[j]? = some v' := by
        rw [hdone.before j (by omega)]
        simp [mid, List.getElem?_set_self hj]
      refine ⟨hdone.size, by simp [hdone.width, mid], fun i hi => ?_, ?_⟩
      · rw [hdone.before i (by omega), hmid i (by omega)]
      · rintro (_ | k) q hq r s hs
        · obtain rfl : q = (a, t) := by simpa using hq.symm
          rw [Nat.add_zero, Chunk.cell_eq_read, hj']
          exact hread r s hs
        · rw [show j + (k + 1) = j + 1 + k by omega]
          exact hdone.cells k q (by simpa using hq) r s hs

/-- **A whole batch.** A batch that fits the bound types, copied into a chunk the engine hands
over, lands whole: the chunk holds the batch, and keeps its number of vectors. -/
theorem writeBatch_holds {batch : Batch} {types : List SqlType} {out : Chunk}
    (hfits : batch.Fits types) (hwidth : types.length ≤ out.vectors.length) (hvalid : out.AllValid) :
    ∃ out', writeBatch batch types out = (out', .ok ()) ∧ out'.Holds batch ∧
      out'.vectors.length = out.vectors.length := by
  have hlen := hfits.columns.length_eq
  obtain ⟨out', hw, hdone⟩ := writeColumns_written batch.rows hfits.rows_le (batch.arrays.zip types)
    0 out (fun p hp => List.forall₂_zip hfits.columns hp) (by simp [hlen, hwidth])
    (fun i v _ hv r => hvalid v (List.mem_of_getElem? hv) r)
  refine ⟨{ out' with size := batch.rows }, by simp [writeBatch, hlen, hw], ⟨rfl, ?_⟩, hdone.width⟩
  intro j a ha r s hs
  have hj : j < types.length := hlen ▸ (List.getElem?_eq_some_iff.1 ha).1
  obtain ⟨t, ht⟩ : ∃ t, types[j]? = some t := ⟨types[j], List.getElem?_eq_getElem hj⟩
  have hcell := hdone.cells j (a, t) (List.getElem?_zip_eq_some.2 ⟨ha, ht⟩) r s hs
  rw [Nat.zero_add] at hcell
  exact hcell

example :
    let out := (writeBatch ⟨[], 2, [⟨.intervalMonthDayNano, [some (.monthDayNano 1 2 (-1500)), none]⟩]⟩
      [.interval] (Chunk.empty 1)).1
    out.size = 2 ∧ out.cell 0 0 = some (.interval 1 2 (-1)) ∧ out.cell 0 1 = none := by
  decide

theorem writeBatch_width_mismatch {batch : Batch} {types : List SqlType} (out : Chunk)
    (h : batch.arrays.length ≠ types.length) :
    writeBatch batch types out = (out, .error (.schema ("batch has " ++
      toString batch.arrays.length ++ " columns, " ++ toString types.length ++ " were bound"))) := by
  simp [writeBatch, h]

/-! ## Every batch of the executor fits

A datum's columnar value is of its type's columnar type, so the contract's batch fits the bound
columns when a vector holds its rows. Every batch a pull answers is such a batch of at most a
vector's worth of rows; a pull that fails or answers no row leaves the scan exhausted, and from
then on every pull of a run answers a batch of no rows. Pulls from a fresh scan whose statement
answers on a reachable cluster log the statement once, on the first pull. -/

theorem Datum.arrowValue?_fits {d : Datum} {x : ArrowValue} (h : d.arrowValue? = some x) :
    x.fits d.sqlType.toArrow := by
  cases d <;> simp only [Datum.arrowValue?, reduceCtorEq, Option.some.injEq] at h <;> subst h
  case uuid u => simp [ArrowValue.fits, Datum.sqlType, SqlType.toArrow, u.size]
  all_goals rfl

theorem clampRows_le_vectorCapacity (n : Nat) : clampRows n ≤ vectorCapacity := by
  simp only [clampRows, batchLimit, vectorCapacity]
  omega

namespace Scan

theorem expectedBatch_fits (s : Scan) (w : Nat) {rows : List Row}
    (h : rows.length ≤ vectorCapacity) :
    (s.expectedBatch w rows).Fits (s.columns.map (·.sqlType)) := by
  refine ⟨List.forall₂_iff_get.2 ⟨by simp [expectedBatch], fun i h₁ h₂ => ?_⟩, h⟩
  simp only [expectedBatch, List.get_eq_getElem, List.getElem_map, List.getElem_zipIdx]
  refine ⟨rfl, by simp, fun x hx => ?_⟩
  -- a slot that is not null holds the value of a datum decoded into the column's type
  obtain ⟨row, -, hrow⟩ := List.mem_map.1 hx
  obtain ⟨c, -, -, hc⟩ := cellSlot_eq_some hrow
  have hfits := Datum.arrowValue?_fits hc
  rwa [Datum.sqlType_decode] at hfits

theorem pull_fst (s : Scan) (c : Cluster) (cur : Cursor) (m : Nat) :
    ∃ st k, (s.pull c cur m).1 = { s with state := st, rowsEmitted := k } := by
  rcases hrest : cur.rest m with f | cur'
  · exact ⟨.exhausted, s.rowsEmitted, by rw [pull_eq_error hrest]⟩
  · rw [pull_eq hrest]
    exact ⟨_, _, rfl⟩

theorem nextBatch_fst (s : Scan) (c : Cluster) (live : Bool) (n : Nat) :
    ∃ st k, (s.nextBatch c live n).1 = { s with state := st, rowsEmitted := k } := by
  have hpath := nextBatch_path s c live n
  generalize s.nextBatch c live n = r at hpath ⊢
  cases hpath with
  | ended => exact ⟨s.state, s.rowsEmitted, rfl⟩
  | streams => exact pull_fst _ _ _ _
  | detached => exact ⟨_, _, rfl⟩
  | refused => exact ⟨_, _, rfl⟩
  | opens => exact pull_fst _ _ _ _

theorem nextBatch_columns (s : Scan) (c : Cluster) (live : Bool) (n : Nat) :
    (s.nextBatch c live n).1.columns = s.columns := by
  obtain ⟨st, k, h⟩ := nextBatch_fst s c live n
  rw [h]

theorem pull_ok {s : Scan} {c : Cluster} {cur : Cursor} {m : Nat} {b : Batch}
    (hm : m ≤ vectorCapacity) (h : (s.pull c cur m).2.2 = .ok b) :
    ∃ w rows, rows.length ≤ vectorCapacity ∧ b = s.expectedBatch w rows ∧
      (rows = [] → (s.pull c cur m).1.state = .exhausted) := by
  rcases hrest : cur.rest m with f | cur'
  · rw [pull_eq_error hrest] at h
    cases h
  · rw [pull_eq hrest] at h ⊢
    cases h
    refine ⟨_, cur.rows.take m, ?_, rfl, fun hnil => by simp [hnil]⟩
    have := List.length_take_le m cur.rows
    omega

theorem nextBatch_ok {s : Scan} {c : Cluster} {live : Bool} {n : Nat} {b : Batch}
    (h : (s.nextBatch c live n).2.2 = .ok b) :
    ∃ w rows, rows.length ≤ vectorCapacity ∧ b = s.expectedBatch w rows ∧
      (rows = [] → (s.nextBatch c live n).1.state = .exhausted) := by
  have hpath := nextBatch_path s c live n
  generalize s.nextBatch c live n = r at hpath h ⊢
  cases hpath with
  | ended hs =>
      cases h
      exact ⟨0, [], by simp, rfl, fun _ => hs⟩
  | streams => exact pull_ok (clampRows_le_vectorCapacity n) h
  | detached => cases h
  | refused => cases h
  | opens => exact pull_ok (clampRows_le_vectorCapacity n) h

theorem nextBatch_fits {s : Scan} {c : Cluster} {live : Bool} {n : Nat} {b : Batch}
    (h : (s.nextBatch c live n).2.2 = .ok b) : b.Fits (s.columns.map (·.sqlType)) := by
  obtain ⟨w, rows, hlen, rfl, -⟩ := nextBatch_ok h
  exact expectedBatch_fits s w hlen

theorem nextBatch_exhausts {s : Scan} {c : Cluster} {live : Bool} {n : Nat}
    (h : ∀ b, (s.nextBatch c live n).2.2 = .ok b → b.rows = 0) :
    (s.nextBatch c live n).1.state = .exhausted := by
  rcases hnb : s.nextBatch c live n with ⟨s', c', _ | b⟩
  · obtain ⟨-, rfl, -⟩ := nextBatch_eq_error hnb
    rfl
  · have hb : (s.nextBatch c live n).2.2 = .ok b := by rw [hnb]
    obtain ⟨w, rows, -, rfl, hend⟩ := nextBatch_ok hb
    have hrows : rows = [] := List.length_eq_zero_iff.1 (h _ hb)
    have := hend hrows
    rwa [hnb] at this

theorem run_pulls_empty_after (live : Bool) (n : Nat) :
    ∀ (k : Nat) (s : Scan) (c : Cluster) (i j : Nat) (r r' : Except ScanError Batch), i < j →
      (s.run live c (List.replicate k (.pull n))).2.2[i]? = some r → (∀ b, r = .ok b → b.rows = 0) →
      (s.run live c (List.replicate k (.pull n))).2.2[j]? = some r' → ∃ b, r' = .ok b ∧ b.rows = 0
  -- by recursion on the pulls, with the scan, the cluster and the positions universal
  | 0, _, _, _, _, _, _, _, hi, _, _ => by simp [run] at hi
  | k + 1, s, c, i, j, r, r', hij, hi, hr, hj => by
      obtain ⟨j, rfl⟩ : ∃ j', j = j' + 1 := ⟨j - 1, by omega⟩
      rcases hnb : s.nextBatch c live n with ⟨s₁, c₁, r₀⟩
      simp only [List.replicate_succ, run, hnb] at hi hj
      cases i with
      | zero =>
          -- the first pull ended the scan, which answers empty batches from then on
          simp only [List.getElem?_cons_zero, Option.some.injEq] at hi
          subst hi
          have hex : s₁.state = .exhausted := by
            have := @nextBatch_exhausts s c live n (by rw [hnb]; exact hr)
            rwa [hnb] at this
          rw [List.getElem?_cons_succ, run_exhausted hex] at hj
          simp only [List.filter_replicate, ScanCall.isPull, ite_true, List.map_replicate,
            List.getElem?_replicate] at hj
          split at hj
          · cases hj
            exact ⟨_, rfl, rfl⟩
          · cases hj
      | succ i =>
          exact run_pulls_empty_after live n k s₁ c₁ i j r r' (by omega) (by simpa using hi) hr
            (by simpa using hj)

theorem run_pulls_executed {s : Scan} {c : Cluster} {live : Bool} {r : ResultSet}
    (hs : s.state = .unstarted) (hq : c.answer (s.source.toCql s.columns) [] = .ok r)
    (hlive : s.hold = .owned ∨ live = true) (k n : Nat) :
    (s.run live c (List.replicate k (.pull n))).2.1.executed =
      c.executed ++ (if k = 0 then [] else [s.source.toCql s.columns]) := by
  have htrack : Tracks c (s.source.toCql s.columns) r.columns .fresh s c :=
    ⟨hs, by simp⟩
  rw [run_tracks _ .fresh s c hq hlive htrack]
  simp only [Cluster.afterScan, Stage.ran_run_fresh]
  cases k <;> simp [List.replicate_succ]

end Scan

/-! ## The engine's calls replay the executor's pulls -/

theorem forall₂_getElem? {α β : Type} {R : α → β → Prop} :
    ∀ {l₁ : List α} {l₂ : List β}, List.Forall₂ R l₁ l₂ → ∀ {i : Nat} {a : α}, l₁[i]? = some a →
      ∃ b, l₂[i]? = some b ∧ R a b
  | _, _, .nil, _, _, h => by simp at h
  | _, _, .cons hab _, 0, _, h => by
      simp only [List.getElem?_cons_zero, Option.some.injEq] at h
      exact ⟨_, rfl, h ▸ hab⟩
  | _, _, .cons _ hrest, i + 1, _, h => by
      simpa using forall₂_getElem? hrest (i := i) (by simpa using h)

theorem BindData.scan_state (d : BindData) : d.scan.state = .unstarted := by
  unfold BindData.scan
  split <;> rfl

theorem BindData.scan_columns_of_bind {c c' : Cluster} {d : BindData}
    (h : (∃ t f, bindTable c t f = (c', .ok d)) ∨ (∃ hold q, bindQuery c hold q = (c', .ok d)) ∨
      ∃ t f, bindCatalogTable c t f = (c', .ok d)) :
    d.scan.columns = d.columns := by
  rcases h with ⟨t, f, h⟩ | ⟨hold, q, h⟩ | ⟨t, f, h⟩
  · unfold bindTable at h
    split at h <;> cases h
    rfl
  · unfold bindQuery at h
    split at h <;> cases h
    rfl
  · unfold bindCatalogTable at h
    split at h
    · cases h
    · split at h <;> cases h
      rfl

namespace BridgeCall

/-- A call's chunk and outcome, filled from a pull's answer: a batch lands whole in the chunk,
and a failed pull is the call's failure, with the chunk left empty. -/
def FilledFrom : Chunk × Except FillError Unit → Except ScanError Batch → Prop
  | (ch, r), .ok b => r = .ok () ∧ ch.Holds b
  | (ch, r), .error e => r = .error (.scan e) ∧ ch.size = 0

theorem FilledFrom.size_eq_zero_iff {call : Chunk × Except FillError Unit}
    {p : Except ScanError Batch} (h : FilledFrom call p) :
    call.1.size = 0 ↔ ∀ b, p = .ok b → b.rows = 0 := by
  obtain ⟨ch, res⟩ := call
  cases p with
  | error e => simp [h.2]
  | ok b => simp [h.2.size]

/-- The engine's first `k` calls of a bound scan, from the executor `exec` and the chunk `out`:
each call gets the chunk the call before left, reset. Answers the executor and the cluster after
them, and each call's chunk and outcome, in order. -/
def fillCalls (d : BindData) (live : Bool) : Nat → Option Scan → Cluster → Chunk →
    Option Scan × Cluster × List (Chunk × Except FillError Unit)
  | 0, exec, c, _ => (exec, c, [])
  | k + 1, exec, c, out =>
    let (exec, c, out, r) := fillChunk d exec c live out.reset
    let (exec, c, calls) := fillCalls d live k exec c out
    (exec, c, (out, r) :: calls)

/-- **One call.** A call pulls one batch from the executor, the one kept or, on the first call,
the one made from the bound data, and keeps that executor for the next call; the chunk it gets,
reset, is filled from the pull's answer and keeps its vectors. -/
theorem fillChunk_filledFrom {d : BindData} {exec : Option Scan} {c : Cluster} {live : Bool}
    {out : Chunk} (hcols : (exec.getD d.scan).columns = d.columns)
    (hwidth : d.columns.length ≤ out.vectors.length) :
    ∃ out' res, fillChunk d exec c live out.reset =
        (some ((exec.getD d.scan).nextBatch c live batchLimit).1,
          ((exec.getD d.scan).nextBatch c live batchLimit).2.1, out', res) ∧
      FilledFrom (out', res) ((exec.getD d.scan).nextBatch c live batchLimit).2.2 ∧
      out'.vectors.length = out.vectors.length := by
  rcases hp : (exec.getD d.scan).nextBatch c live batchLimit with ⟨s', c', _ | b⟩
  · exact ⟨out.reset, _, by simp [fillChunk, hp], ⟨rfl, rfl⟩, by simp⟩
  · -- the pulled batch fits the bound types, so the copy cannot refuse it
    have hfits : b.Fits d.types := by
      have := Scan.nextBatch_fits (show ((exec.getD d.scan).nextBatch c live batchLimit).2.2 = .ok b by
        rw [hp])
      rwa [hcols] at this
    obtain ⟨out', hw, hholds, hlen⟩ :=
      writeBatch_holds hfits (by simpa [BindData.types] using hwidth) (Chunk.allValid_reset out)
    exact ⟨out', .ok (), by simp [fillChunk, hp, hw], ⟨rfl, hholds⟩, by simpa using hlen⟩

/-- **The run lemma.** The engine's calls replay the executor's pulls: the executor the first
call makes is the one every later call pulls from, the cluster is the one the pulls leave, and
each call's chunk is filled from the matching pull's answer. The induction runs over the calls,
with the executor, the cluster and the chunk generalized. -/
theorem fillCalls_replay (d : BindData) (live : Bool) :
    ∀ (k : Nat) (exec : Option Scan) (c : Cluster) (out : Chunk),
      (exec.getD d.scan).columns = d.columns → d.columns.length ≤ out.vectors.length →
      (fillCalls d live k exec c out).1 = (if k = 0 then exec else
        some ((exec.getD d.scan).run live c (List.replicate k (.pull batchLimit))).1) ∧
      (fillCalls d live k exec c out).2.1 =
        ((exec.getD d.scan).run live c (List.replicate k (.pull batchLimit))).2.1 ∧
      List.Forall₂ FilledFrom (fillCalls d live k exec c out).2.2
        ((exec.getD d.scan).run live c (List.replicate k (.pull batchLimit))).2.2
  | 0, exec, c, out, _, _ => by simp [fillCalls, Scan.run]
  | k + 1, exec, c, out, hcols, hwidth => by
      obtain ⟨out', res, hf, hfilled, hlen⟩ :=
        @fillChunk_filledFrom d exec c live out hcols hwidth
      let s' := ((exec.getD d.scan).nextBatch c live batchLimit).1
      let c' := ((exec.getD d.scan).nextBatch c live batchLimit).2.1
      have hcols' : ((some s').getD d.scan).columns = d.columns := by
        simp [s', Scan.nextBatch_columns, hcols]
      obtain ⟨hexec, hc, hrest⟩ := fillCalls_replay d live k (some s') c' out' hcols' (hlen ▸ hwidth)
      simp only [fillCalls, hf, List.replicate_succ, Scan.run]
      refine ⟨?_, hc, .cons hfilled hrest⟩
      -- after the first call the executor is the one it made
      rw [hexec]
      cases k <;> rfl

end BridgeCall

/-- **Every cell of a batch reaches the engine, and the engine's calls replay the scan.**

A batch that fits the bound types, copied into a chunk the engine hands over (every flag up, at
least one vector per type), lands whole: the chunk's count is the row count, a null slot is a
NULL cell and any other slot its value's slot. A batch with another number of columns than the
types is refused with the schema error, before anything is written.

Over the engine's first `k` calls of a bound scan whose executor reads the bound columns, as
every bind makes it: the executor is made on the first call and kept, and it and the cluster are
those of `k` pulls of one executor; each call's chunk is filled from the matching pull's answer,
so no call refuses a batch; once a chunk comes back empty every later one does too; and a
statement that answers on a reachable cluster is logged once for the whole scan. -/
theorem writeBatch_transfers_every_cell :
    (∀ (batch : Batch) (types : List SqlType) (out : Chunk), batch.Fits types →
        types.length ≤ out.vectors.length → out.AllValid →
        ∃ out', writeBatch batch types out = (out', .ok ()) ∧ out'.Holds batch) ∧
    (∀ (batch : Batch) (types : List SqlType) (out : Chunk), batch.arrays.length ≠ types.length →
        writeBatch batch types out = (out, .error (.schema ("batch has " ++
          toString batch.arrays.length ++ " columns, " ++ toString types.length ++
          " were bound")))) ∧
    ∀ (d : BindData) (live : Bool) (c : Cluster) (out : Chunk) (k : Nat),
      d.scan.columns = d.columns → d.columns.length ≤ out.vectors.length →
      let calls := BridgeCall.fillCalls d live k none c out
      let pulls := d.scan.run live c (List.replicate k (.pull batchLimit))
      calls.1 = (if k = 0 then none else some pulls.1) ∧ calls.2.1 = pulls.2.1 ∧
      List.Forall₂ BridgeCall.FilledFrom calls.2.2 pulls.2.2 ∧
      (∀ (i j : Nat) (call call' : Chunk × Except BridgeCall.FillError Unit), i < j →
        calls.2.2[i]? = some call → call.1.size = 0 → calls.2.2[j]? = some call' →
        call'.2 = .ok () ∧ call'.1.size = 0) ∧
      ∀ r, c.answer (d.scan.source.toCql d.scan.columns) [] = .ok r →
        (d.scan.hold = .owned ∨ live = true) →
        calls.2.1.executed =
          c.executed ++ (if k = 0 then [] else [d.scan.source.toCql d.scan.columns]) := by
  refine ⟨fun batch types out hfits hwidth hvalid => ?_, fun batch types out h =>
    writeBatch_width_mismatch out h, fun d live c out k hcols hwidth => ?_⟩
  · obtain ⟨out', hw, hholds, -⟩ := writeBatch_holds hfits hwidth hvalid
    exact ⟨out', hw, hholds⟩
  · dsimp only
    obtain ⟨hexec, hc, hfilled⟩ := BridgeCall.fillCalls_replay d live k none c out hcols hwidth
    refine ⟨hexec, hc, hfilled, ?_, fun r hq hlive => ?_⟩
    · -- an empty chunk comes from a pull that ended the scan; later pulls answer no row
      intro i j call call' hij hi hempty hj
      obtain ⟨p, hp, hpf⟩ := forall₂_getElem? hfilled hi
      obtain ⟨p', hp', hpf'⟩ := forall₂_getElem? hfilled hj
      obtain ⟨b, rfl, hb⟩ := Scan.run_pulls_empty_after live batchLimit k d.scan c i j p p' hij hp
        (hpf.size_eq_zero_iff.1 hempty) hp'
      obtain ⟨ch, res⟩ := call'
      exact ⟨hpf'.1, hpf'.2.size.trans hb⟩
    · rw [hc]
      exact Scan.run_pulls_executed (BindData.scan_state d) hq hlive k batchLimit

end CqlBridge
