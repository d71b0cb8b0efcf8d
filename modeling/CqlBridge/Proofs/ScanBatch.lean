import Mathlib
import CqlBridge.Scan.Executor
import CqlBridge.Proofs.Decode

/-!
# `CqlBridge.Proofs.ScanBatch` — what one pull puts in its batch

A pull decodes each row it reads into the bound columns and hands the decoded values to one
column builder per column. This module shows that the whole path never refuses and says what
every slot of the batch holds.

Three facts carry it:

* a builder never refuses a datum: the only refusal is a UUID of another width than 16, and a
  UUID has 16 bytes by its type;
* the builder chosen for a column stores every non-NULL datum of the column's type
  (`ColumnBuilder.slot_new`), and decoding answers a datum of that type
  (`Datum.sqlType_decode`), so no decoded value is turned into NULL on the way;
* every builder receives exactly one slot per row, so the assembled arrays have the row count,
  and the builders' types are the fields' types, the time zone of timestamps included.

`Scan.expectedBatch` is the batch as the contract describes it: the scan's schema, one array per
bound column of the column's columnar type, and in row `i`, column `j` the slot
`Scan.cellSlot`: null past the result's width, past the row's end, for a NULL cell or for a
value that decodes to NULL, and the decoded datum's columnar value otherwise.
`Scan.nextBatch_batch_cells` says that a pull answers exactly that batch for the rows it reads,
when its cursor reads them without a failed fetch, and never fails in the columnar format.
-/

namespace CqlBridge

/-! ## The columnar value of a datum -/

/-- The columnar value of a datum: NULL has none; timestamps stay microseconds in UTC, a UUID is
its 16 bytes, an interval its months, days and nanoseconds, and text of both textual types is
UTF-8 text. -/
def Datum.arrowValue? : Datum → Option ArrowValue
  | .null _ => none
  | .boolean b => some (.boolean b)
  | .tinyint i => some (.int8 i)
  | .smallint i => some (.int16 i)
  | .integer i => some (.int32 i)
  | .bigint i => some (.int64 i)
  | .float b => some (.float32 b)
  | .double b => some (.float64 b)
  | .varchar s => some (.utf8 s)
  | .json s => some (.utf8 s)
  | .blob bs => some (.binary bs)
  | .date d => some (.date32 d)
  | .time us => some (.time64 us)
  | .timestamptz us => some (.timestamp us)
  | .interval m d n => some (.monthDayNano m d n)
  | .uuid u => some (.fixed u.bytes)

theorem Datum.arrowValue?_eq_none_iff (d : Datum) : d.arrowValue? = none ↔ d.isNull = true := by
  cases d <;> simp [arrowValue?, isNull]

/-! ## One builder -/

namespace ColumnBuilder

/-- The slot a builder appends for a datum. -/
def slot (b : ColumnBuilder) (d : Datum) : Option ArrowValue :=
  match b.kind, d with
  | .uuid, .uuid u => some (.fixed u.bytes)
  | k, d => k.accept d

@[simp] theorem append_eq_ok (b : ColumnBuilder) (d : Datum) : b.append d = .ok (b.push (b.slot d)) := by
  obtain ⟨kind, slots⟩ := b
  cases kind <;> cases d <;> try rfl
  rename_i u
  simp [append, slot, u.size, BuilderKind.uuidWidth]

@[simp] theorem push_kind (b : ColumnBuilder) (v : Option ArrowValue) : (b.push v).kind = b.kind :=
  rfl

@[simp] theorem push_slots (b : ColumnBuilder) (v : Option ArrowValue) :
    (b.push v).slots = b.slots ++ [v] := rfl

theorem slot_new {t : SqlType} {d : Datum} (hd : d.sqlType = t) (slots : List (Option ArrowValue)) :
    ({ new t with slots } : ColumnBuilder).slot d = d.arrowValue? := by
  cases d <;> subst hd <;> first | rfl | (rename_i t; cases t <;> rfl)

theorem kind_new_arrowType (t : SqlType) : (new t).kind.arrowType = t.toArrow := by
  cases t <;> rfl

end ColumnBuilder

/-! ## The batch by the contract -/

namespace Scan

/-- The slot of bound column `j` (of type `t`) in a row of a result `width` cells wide: null past
the width, and otherwise the columnar value of the decoded cell, which is null for a missing or
NULL cell and for a value that decodes to NULL. -/
def cellSlot (width : Nat) (row : Row) (j : Nat) (t : SqlType) : Option ArrowValue :=
  if j < width then (Datum.decode (row[j]?).join t).arrowValue? else none

/-- A slot is null exactly when the column lies past the width, the row has no such cell, the
cell is NULL, or the value decodes to NULL. -/
theorem cellSlot_eq_none_iff (width : Nat) (row : Row) (j : Nat) (t : SqlType) :
    cellSlot width row j t = none ↔
      width ≤ j ∨ row[j]? = none ∨ row[j]? = some none ∨
        ∃ c, row[j]? = some (some c) ∧ (Datum.decode (some c) t).isNull = true := by
  unfold cellSlot
  by_cases hj : j < width
  · simp only [hj, ite_true, Datum.arrowValue?_eq_none_iff]
    rcases h : row[j]? with _ | _ | c <;> simp [Datum.decode, Datum.isNull]
    -- only a present cell is left, where the width bound refutes the out-of-range disjunct
    omega
  · simp only [hj, ite_false, true_iff]
    omega

theorem cellSlot_eq_some {width : Nat} {row : Row} {j : Nat} {t : SqlType} {v : ArrowValue}
    (h : cellSlot width row j t = some v) :
    ∃ c, j < width ∧ row[j]? = some (some c) ∧ (Datum.decode (some c) t).arrowValue? = some v := by
  unfold cellSlot at h
  split at h
  · rename_i hj
    rcases hc : row[j]? with _ | _ | c <;> simp [hc, Datum.decode, Datum.arrowValue?] at h
    exact ⟨c, hj, rfl, h⟩
  · cases h

/-- The batch of `rows` read from a result `width` cells wide, as the contract describes it. -/
def expectedBatch (s : Scan) (width : Nat) (rows : List Row) : Batch :=
  ⟨s.schema, rows.length, s.columns.zipIdx.map fun (col, j) =>
    ⟨col.sqlType.toArrow, rows.map fun row => cellSlot width row j col.sqlType⟩⟩

/-- The builders once `rows` are appended: one per bound column, with one slot per row. -/
def buildersAfter (s : Scan) (width : Nat) (rows : List Row) : List ColumnBuilder :=
  s.columns.zipIdx.map fun (col, j) =>
    { ColumnBuilder.new col.sqlType with slots := rows.map fun row => cellSlot width row j col.sqlType }

@[simp] theorem buildersAfter_nil (s : Scan) (width : Nat) :
    s.buildersAfter width [] = s.columns.map (ColumnBuilder.new ·.sqlType) := by
  simp only [buildersAfter, List.map_nil]
  apply List.ext_getElem
  · simp
  · intro i h₁ h₂
    have hi : i < s.columns.length := by simpa using h₂
    simp only [List.getElem_map, List.getElem_zipIdx]
    cases s.columns[i].sqlType <;> rfl

end Scan

/-! ## Assembling a batch

The checks of `Batch.make` pass when there is one array per field, every field is nullable,
every array has the row count, and every array has its field's type. -/

theorem Batch.check_eq_none {schema : List Field} {arrays : List ArrowArray} {rows : Nat}
    (hlen : arrays.length = schema.length) (hnull : ∀ f ∈ schema, f.nullable = true)
    (hrows : ∀ a ∈ arrays, a.slots.length = rows)
    (htype : ∀ i (h₁ : i < arrays.length) (h₂ : i < schema.length),
      arrays[i].type = schema[i].type) :
    Batch.check schema arrays rows = none := by
  have hfind : (schema.zip arrays).find? (fun p => !p.1.nullable && p.2.slots.contains none) =
      none := by
    rw [List.find?_eq_none]
    intro p hp
    simp [hnull p.1 (List.of_mem_zip hp).1]
  have hany : arrays.any (·.slots.length != rows) = false := by
    rw [List.any_eq_false]
    intro a ha
    simp [hrows a ha]
  have hmatch : ((schema.zip arrays).zipIdx.find? fun q => q.1.2.type != q.1.1.type) = none := by
    rw [List.find?_eq_none]
    intro p hp
    obtain ⟨k, hk, rfl⟩ := List.mem_iff_getElem.1 hp
    have hk' : k < schema.length ∧ k < arrays.length := by simpa [Nat.lt_min] using hk
    simp [List.getElem_zipIdx, List.getElem_zip, htype k hk'.2 hk'.1]
  unfold Batch.check
  rw [if_neg (by simp [hlen]), hfind]
  simp only [hany, Bool.false_eq_true, ite_false, hmatch]

theorem Batch.make_eq_ok {schema : List Field} {arrays : List ArrowArray} {rows : Nat}
    (h : Batch.check schema arrays rows = none) : Batch.make schema arrays rows = .ok ⟨schema, rows, arrays⟩ := by
  simp [Batch.make, h]

/-! ## Reading a cursor

The executor's loop of reads takes the first `n` rows and leaves the rest, or the fault past
them (`Cursor.readRows_eq`). Reading cannot fail when the cursor's result ends without a
failure, as the in-memory cluster's cursors do, or when it still holds all the rows asked
for. -/

/-- What asking a cursor for `n` rows leaves: the cursor past the rows read, or the cursor's
fault when it has fewer than `n` rows and its result ends in a failed fetch. -/
def Cursor.rest (cur : Cursor) (n : Nat) : Except Fault Cursor :=
  match cur.failure with
  | some f => if cur.rows.length < n then .error f else .ok { cur with rows := cur.rows.drop n }
  | none => .ok { cur with rows := cur.rows.drop n }

@[simp] theorem Cursor.readRows_eq (cur : Cursor) (n : Nat) :
    cur.readRows n = (cur.rows.take n, cur.rest n) := by
  -- over the rows asked for, with the cursor generalized
  induction n generalizing cur with
  | zero =>
      obtain ⟨columns, rows, failure⟩ := cur
      cases failure <;> simp [readRows, rest]
  | succ n ih =>
      obtain ⟨columns, rows, failure⟩ := cur
      cases rows with
      | nil => cases failure <;> simp [readRows, nextRow, rest]
      | cons row rows =>
          simp only [readRows, nextRow, ih]
          cases failure <;> simp [rest]

theorem Cursor.rest_eq_ok {cur : Cursor} {n : Nat} (h : cur.failure = none ∨ n ≤ cur.rows.length) :
    cur.rest n = .ok { cur with rows := cur.rows.drop n } := by
  unfold rest
  rcases hf : cur.failure with _ | f
  · rfl
  · have hn : ¬ cur.rows.length < n := by
      rcases h with h | h
      · rw [hf] at h
        cases h
      · omega
    simp [hn]

theorem Cursor.rest_eq_error {cur : Cursor} {n : Nat} {f : Fault} :
    cur.rest n = .error f ↔ cur.failure = some f ∧ cur.rows.length < n := by
  unfold rest
  rcases hf : cur.failure with _ | f'
  · simp
  · by_cases hn : cur.rows.length < n <;> simp [hn, eq_comm]

theorem Cluster.failure_openCursor {c c' : Cluster} {cql : String} {cur : Cursor}
    (h : c.openCursor cql = (c', .ok cur)) : cur.failure = none := by
  unfold Cluster.openCursor at h
  split at h
  · cases h
    rfl
  · cases h

/-! ## A pull fills the builders with the contract's slots

The builder of a column gives each row its contract slot, so filling appends every row, in
order, to the builders (`fill_buildersAfter`, by recursion on the rows still to append with
those already appended generalized). -/

theorem mapM_eq_ok_map {α β ε : Type} {f : α → Except ε β} {g : α → β}
    (h : ∀ a, f a = .ok (g a)) (l : List α) : l.mapM f = .ok (l.map g) := by
  have hf : f = fun a => pure (g a) := funext h
  subst hf
  exact List.mapM_pure

namespace Scan

/-- The slot a row gives the builder of bound column `j`, of type `t`. -/
def rowSlot (b : ColumnBuilder) (width : Nat) (row : Row) (j : Nat) (t : SqlType) :
    Option ArrowValue :=
  match if j < width then (row[j]?).join else none with
  | none => none
  | some raw => b.slot (Datum.decode (some raw) t)

theorem appendRow_eq_ok (s : Scan) (width : Nat) (row : Row) (builders : List ColumnBuilder) :
    s.appendRow width row builders = .ok ((s.columns.zip builders).zipIdx.map
      fun ((col, b), j) => b.push (rowSlot b width row j col.sqlType)) := by
  unfold appendRow
  apply mapM_eq_ok_map
  rintro ⟨⟨col, b⟩, j⟩
  simp only [rowSlot]
  -- the cell read decides both the builder's call and the slot the contract gives
  generalize (if j < width then (row[j]?).join else none) = cell
  cases cell with
  | none => simp [ColumnBuilder.appendNull]
  | some raw => simp

theorem rowSlot_new (t : SqlType) (slots : List (Option ArrowValue)) (width : Nat) (row : Row)
    (j : Nat) : rowSlot { ColumnBuilder.new t with slots } width row j t = cellSlot width row j t := by
  unfold rowSlot cellSlot
  by_cases hj : j < width
  · simp only [hj, ite_true]
    cases (row[j]?).join with
    | none => rfl
    | some raw => exact ColumnBuilder.slot_new (Datum.sqlType_decode _ t) slots
  · simp [hj]

theorem appendRow_buildersAfter (s : Scan) (width : Nat) (done : List Row) (row : Row) :
    s.appendRow width row (s.buildersAfter width done) =
      .ok (s.buildersAfter width (done ++ [row])) := by
  rw [appendRow_eq_ok]
  congr 1
  apply List.ext_getElem
  · simp [buildersAfter]
  · intro i h₁ h₂
    have hi : i < s.columns.length := by simpa [buildersAfter] using h₂
    simp [buildersAfter, List.getElem_zipIdx, List.getElem_zip, rowSlot_new, ColumnBuilder.push]

theorem fill_buildersAfter (s : Scan) (width : Nat) :
    ∀ (rows done : List Row),
      s.fill width rows (s.buildersAfter width done) = .ok (s.buildersAfter width (done ++ rows))
  | [], done => by simp [fill]
  | row :: rows, done => by
      simp only [fill, appendRow_buildersAfter, bind, Except.bind]
      rw [fill_buildersAfter s width rows (done ++ [row])]
      simp

@[simp] theorem fill_new (s : Scan) (width : Nat) (rows : List Row) :
    s.fill width rows (s.columns.map (ColumnBuilder.new ·.sqlType)) =
      .ok (s.buildersAfter width rows) := by
  rw [← buildersAfter_nil s width, fill_buildersAfter]
  simp

theorem finish_buildersAfter (s : Scan) (width : Nat) (rows : List Row) :
    s.finish (s.buildersAfter width rows) rows.length = .ok (s.expectedBatch width rows) := by
  have harrays : (s.buildersAfter width rows).map (·.finish) = (s.expectedBatch width rows).arrays := by
    simp only [buildersAfter, expectedBatch, List.map_map]
    congr 1
    funext p
    simp [ColumnBuilder.finish, ColumnBuilder.kind_new_arrowType]
  unfold finish
  rw [harrays]
  apply Batch.make_eq_ok
  apply Batch.check_eq_none
  · simp [expectedBatch, schema]
  · intro f hf
    obtain ⟨col, -, rfl⟩ := List.mem_map.1 hf
    rfl
  · intro a ha
    obtain ⟨p, -, rfl⟩ := List.mem_map.1 ha
    simp
  · intro i h₁ h₂
    simp [expectedBatch, schema, SqlType.toArrowField, List.getElem_zipIdx]

@[simp] theorem expectedBatch_nil (s : Scan) (width : Nat) : s.expectedBatch width [] = Batch.empty s.schema := by
  simp only [expectedBatch, Batch.empty, List.length_nil, List.map_nil, Batch.mk.injEq, true_and]
  apply List.ext_getElem
  · simp [schema]
  · intro i h₁ h₂
    simp [schema, SqlType.toArrowField, List.getElem_zipIdx]

theorem expectedBatch_types (s : Scan) (width : Nat) (rows : List Row) :
    (s.expectedBatch width rows).schema = s.schema ∧
      (s.expectedBatch width rows).arrays.map (·.type) = s.columns.map (·.sqlType.toArrow) := by
  refine ⟨rfl, ?_⟩
  apply List.ext_getElem
  · simp [expectedBatch]
  · intro i h₁ h₂
    simp [expectedBatch, List.getElem_zipIdx]

/-! ## One pull

The filled builders assemble into the contract's batch, and assembling reads only the bound
columns, so a pull whose reads succeed answers that batch (`pull_eq`). -/

@[simp] theorem finish_with (s : Scan) (st : ScanState) (k : Nat) :
    ({ s with state := st, rowsEmitted := k } : Scan).finish = s.finish := rfl

/-- A pull whose reads succeed answers the contract's batch of the next `n` rows of its cursor,
counts them, and streams on from the cursor left, or ends and releases the cursor when it found
none. -/
theorem pull_eq {s : Scan} {c : Cluster} {cur cur' : Cursor} {n : Nat}
    (h : cur.rest n = .ok cur') :
    s.pull c cur n =
      ({ s with
          state := if (cur.rows.take n).isEmpty then .exhausted else .streaming cur',
          rowsEmitted := s.rowsEmitted + (cur.rows.take n).length },
        if (cur.rows.take n).isEmpty then c.releaseCursor else c,
        .ok (s.expectedBatch (min cur.columns.length s.columns.length) (cur.rows.take n))) := by
  unfold pull
  rw [Cursor.readRows_eq]
  dsimp only
  rw [fill_new, h]
  by_cases he : (cur.rows.take n).isEmpty
  · simp only [he, ite_true]
    rw [finish_with, finish_buildersAfter]
    rfl
  · simp only [he, Bool.false_eq_true, ite_false]
    rw [finish_with, finish_buildersAfter]
    rfl

/-- A pull whose cursor fails to read a row fails with the cursor's fault, after the rows before
it were filled in: the scan ends with its count of rows as before, and the cursor is released. -/
theorem pull_eq_error {s : Scan} {c : Cluster} {cur : Cursor} {n : Nat} {f : Fault}
    (h : cur.rest n = .error f) :
    s.pull c cur n =
      ({ s with state := .exhausted }, c.releaseCursor, .error (.client (.fault f))) := by
  unfold pull
  rw [Cursor.readRows_eq]
  dsimp only
  rw [fill_new, h]

theorem nextBatch_exhausted {s : Scan} (h : s.state = .exhausted) (c : Cluster) (live : Bool)
    (n : Nat) : s.nextBatch c live n = (s, c, .ok (s.expectedBatch 0 [])) := by
  simp [nextBatch, h]

theorem nextBatch_streaming {s : Scan} {cur : Cursor} (h : s.state = .streaming cur) (c : Cluster)
    (live : Bool) (n : Nat) : s.nextBatch c live n = s.pull c cur (clampRows n) := by
  simp [nextBatch, h]

theorem nextBatch_unstarted {s : Scan} (h : s.state = .unstarted) {c c' : Cluster} {live : Bool}
    (hlive : s.hold = .owned ∨ live = true) {cur : Cursor}
    (hopen : c.openCursor (s.source.toCql s.columns) = (c', .ok cur)) (n : Nat) :
    s.nextBatch c live n = s.pull c' cur (clampRows n) := by
  have hgo : (s.hold == .attached && !live) = false := by
    rcases hlive with hh | hl
    · simp [hh]
    · simp [hl]
  simp [nextBatch, h, hgo, hopen]

/-- The ways a pull of `n` rows from `s` on `c` goes, each with the scan, cluster and answer it
ends in: an ended scan answers the empty batch; a streaming scan pulls from its cursor; a first
pull fails on a detached cluster, fails with the cluster's answer to the scan's statement, or
pulls from the cursor that statement opens. -/
inductive PullPath (s : Scan) (c : Cluster) (live : Bool) (n : Nat) :
    Scan × Cluster × Except ScanError Batch → Prop
  | ended (hs : s.state = .exhausted) : PullPath s c live n (s, c, .ok (s.expectedBatch 0 []))
  | streams {cur : Cursor} (hs : s.state = .streaming cur) :
      PullPath s c live n (s.pull c cur (clampRows n))
  | detached (hs : s.state = .unstarted) (hhold : s.hold = .attached) (hlive : live = false) :
      PullPath s c live n
        ({ s with state := .exhausted }, c, .error (.client (.fault (.connection .detached))))
  | refused {c' : Cluster} {st : Stop} (hs : s.state = .unstarted)
      (hlive : s.hold = .owned ∨ live = true)
      (hopen : c.openCursor (s.source.toCql s.columns) = (c', .error st)) :
      PullPath s c live n ({ s with state := .exhausted }, c', .error (.client st))
  | opens {c' : Cluster} {cur : Cursor} (hs : s.state = .unstarted)
      (hlive : s.hold = .owned ∨ live = true)
      (hopen : c.openCursor (s.source.toCql s.columns) = (c', .ok cur)) :
      PullPath s c live n (s.pull c' cur (clampRows n))

theorem nextBatch_path (s : Scan) (c : Cluster) (live : Bool) (n : Nat) :
    PullPath s c live n (s.nextBatch c live n) := by
  cases hs : s.state with
  | exhausted =>
      rw [nextBatch_exhausted hs]
      exact .ended hs
  | streaming cur =>
      rw [nextBatch_streaming hs]
      exact .streams hs
  | unstarted =>
      by_cases hgo : (s.hold == .attached && !live) = true
      · have hdet : s.hold = .attached ∧ live = false := by simpa using hgo
        have hnb : s.nextBatch c live n = ({ s with state := .exhausted }, c,
            .error (.client (.fault (.connection .detached)))) := by
          simp [nextBatch, hs, hgo]
        rw [hnb]
        exact .detached hs hdet.1 hdet.2
      · have hlive : s.hold = .owned ∨ live = true := by
          cases hh : s.hold <;> simp_all
        rcases hopen : c.openCursor (s.source.toCql s.columns) with ⟨c', st | cur⟩
        · have hnb : s.nextBatch c live n = ({ s with state := .exhausted }, c', .error (.client st)) := by
            simp [nextBatch, hs, hgo, hopen]
          rw [hnb]
          exact .refused hs hlive hopen
        · rw [nextBatch_unstarted hs hlive hopen]
          exact .opens hs hlive hopen

/-- A pull from a cursor answers a client failure or the contract's batch of some rows. -/
theorem pull_shape (s : Scan) (c : Cluster) (cur : Cursor) (m : Nat) :
    (∃ st, (s.pull c cur m).2.2 = .error (.client st)) ∨
      ∃ w rows, (s.pull c cur m).2.2 = .ok (s.expectedBatch w rows) := by
  rcases hrest : cur.rest m with f | cur'
  · exact .inl ⟨.fault f, by rw [pull_eq_error hrest]⟩
  · exact .inr ⟨_, _, by rw [pull_eq hrest]⟩

/-- **A pull's batch, cell by cell.** A pull never fails in the columnar format. An ended scan
answers the empty batch of its schema. A scan that reads a cursor, the one it streams from (when
that cursor can read the rows asked for) or the one its first pull opens on a reachable cluster,
answers the contract's batch (`expectedBatch`) of the next `clampRows n` rows of that cursor,
read at the width of the narrower of the result and the bound columns. Every batch it answers
has the scan's schema and one array per bound column, of that column's columnar type. -/
theorem nextBatch_batch_cells (s : Scan) (c : Cluster) (live : Bool) (n : Nat) :
    (∀ e, (s.nextBatch c live n).2.2 ≠ .error (.arrow e)) ∧
    (∀ b, (s.nextBatch c live n).2.2 = .ok b →
      b.schema = s.schema ∧ b.arrays.map (·.type) = s.columns.map (·.sqlType.toArrow)) ∧
    (s.state = .exhausted → (s.nextBatch c live n).2.2 = .ok (s.expectedBatch 0 [])) ∧
    (∀ cur, ((s.state = .streaming cur ∧ (cur.failure = none ∨ clampRows n ≤ cur.rows.length)) ∨
        (s.state = .unstarted ∧ (s.hold = .owned ∨ live = true) ∧
          (c.openCursor (s.source.toCql s.columns)).2 = .ok cur)) →
      (s.nextBatch c live n).2.2 =
        .ok (s.expectedBatch (min cur.columns.length s.columns.length) (cur.rows.take (clampRows n)))) := by
  -- every answer is either a client failure or the contract's batch of some rows
  have hshape : (∃ st, (s.nextBatch c live n).2.2 = .error (.client st)) ∨
      ∃ w rows, (s.nextBatch c live n).2.2 = .ok (s.expectedBatch w rows) := by
    have hpath := nextBatch_path s c live n
    generalize s.nextBatch c live n = r at hpath ⊢
    cases hpath with
    | ended => exact .inr ⟨0, [], rfl⟩
    | streams => exact pull_shape _ _ _ _
    | detached => exact .inl ⟨_, rfl⟩
    | refused => exact .inl ⟨_, rfl⟩
    | opens => exact pull_shape _ _ _ _
  refine ⟨?_, ?_, ?_, ?_⟩
  · intro e he
    rcases hshape with ⟨st, hst⟩ | ⟨w, rows, hb⟩
    · rw [hst] at he
      cases he
    · rw [hb] at he
      cases he
  · intro b hb
    rcases hshape with ⟨st, hst⟩ | ⟨w, rows, hb'⟩
    · rw [hst] at hb
      cases hb
    · rw [hb'] at hb
      cases hb
      exact expectedBatch_types s w rows
  · intro hs
    rw [nextBatch_exhausted hs]
  · rintro cur (⟨hs, hread⟩ | ⟨hs, hlive, hopen⟩)
    · rw [nextBatch_streaming hs, pull_eq (Cursor.rest_eq_ok hread)]
    · obtain ⟨c', hc'⟩ : ∃ c', c.openCursor (s.source.toCql s.columns) = (c', .ok cur) :=
        ⟨_, Prod.ext rfl hopen⟩
      rw [nextBatch_unstarted hs hlive hc', pull_eq (Cursor.rest_eq_ok (.inl (Cluster.failure_openCursor hc')))]

end Scan

end CqlBridge
