import CqlBridge.Scan.Source
import CqlBridge.Scan.Arrow
import CqlBridge.Cluster.Answer

/-!
# `CqlBridge.Scan.Executor` — a scan that pulls batches of rows from a cluster

A scan moves through three phases, `unstarted → streaming → exhausted`:

* The first pull runs the scan's statement and opens a cursor. A scan that holds its cluster
  only by an *attached* handle fails with a connection fault once the cluster is gone.
* Each pull takes up to `n` rows, with `n` clamped to `1..2048`, and decodes cell `j` of each
  row into bound column `j` (`Datum.decode`); cells past the result's width or the row's end
  are null. The decoded values go through one column builder per bound column
  (`CqlBridge.Scan.Arrow`), and the arrays make a batch against the scan's schema. A pull that
  finds rows leaves the scan streaming.
* A pull that finds no row releases the cursor; from then on the scan is exhausted and every
  pull gives an empty batch. Closing a scan releases its cursor the same way.
* A pull reads its rows one at a time (`Cursor.readRows`); a read that fails, when the cursor
  cannot fetch its next page, fails the pull and drops the rows it had read.
* A failed pull leaves the scan exhausted, without a cursor, and its row count unchanged.
-/

namespace CqlBridge

/-- How a scan holds its cluster: as an owner, or attached through a catalog that may go. -/
inductive Hold where
  | owned
  | attached
  deriving DecidableEq, Repr

/-- The phase of a scan. -/
inductive Phase where
  | unstarted | streaming | exhausted
  deriving DecidableEq, Repr

/-- The name of a phase. -/
def Phase.name : Phase → String
  | .unstarted => "Unstarted"
  | .streaming => "Streaming"
  | .exhausted => "Exhausted"

/-- A scan's state: before its statement runs, reading a cursor, or done. -/
inductive ScanState where
  | unstarted
  | streaming (cursor : Cursor)
  | exhausted

/-- Why a pull fails: the cluster's fault or crash, or the columnar format's refusal. -/
inductive ScanError where
  | client (s : Stop)
  | arrow (e : ArrowError)

/-- The most rows one pull gives. -/
def batchLimit : Nat := 2048

/-- The rows a pull asks for, clamped to `1..batchLimit`. -/
def clampRows (n : Nat) : Nat := max 1 (min n batchLimit)

/-- A scan of a source into bound columns. -/
structure Scan where
  hold : Hold
  source : ScanSource
  columns : List ScanColumn
  state : ScanState := .unstarted
  rowsEmitted : Nat := 0

namespace Scan

/-- The phase of the scan. -/
def phase (s : Scan) : Phase :=
  match s.state with
  | .unstarted => .unstarted
  | .streaming _ => .streaming
  | .exhausted => .exhausted

/-- The schema of the scan's batches: one nullable field per bound column. -/
def schema (s : Scan) : List Field := s.columns.map fun c => c.sqlType.toArrowField c.name

/-- Appends a row to the builders, one cell per bound column: cell `j` of the row, decoded into
column `j`'s type, or a null past the result's `width`, past the row's end, or for a null
cell. -/
def appendRow (s : Scan) (width : Nat) (row : Row) (builders : List ColumnBuilder) :
    Except ArrowError (List ColumnBuilder) :=
  (s.columns.zip builders).zipIdx.mapM fun ((col, b), j) =>
    match if j < width then (row[j]?).join else none with
    | none => .ok b.appendNull
    | some raw => b.append (Datum.decode (some raw) col.sqlType)

/-- Appends rows to the builders, in order, stopping at the first refusal. -/
def fill (s : Scan) (width : Nat) : List Row → List ColumnBuilder →
    Except ArrowError (List ColumnBuilder)
  | [], builders => .ok builders
  | row :: rows, builders => do s.fill width rows (← s.appendRow width row builders)

/-- The batch of `rows` rows from the builders' arrays. -/
def finish (s : Scan) (builders : List ColumnBuilder) (rows : Nat) : Except ArrowError Batch :=
  Batch.make s.schema (builders.map (·.finish)) rows

/-- Reads up to `n` rows from a cursor into the builders. A refusal while filling them, or a
read that fails after the rows before it were filled in, ends the scan and releases the cursor;
the rows read are dropped. Otherwise the scan streams on, or ends when no row was left, before
the batch is assembled. -/
def pull (s : Scan) (c : Cluster) (cur : Cursor) (n : Nat) :
    Scan × Cluster × Except ScanError Batch :=
  let (taken, rest) := cur.readRows n
  let width := min cur.columns.length s.columns.length
  match s.fill width taken (s.columns.map (ColumnBuilder.new ·.sqlType)) with
  | .error e => ({ s with state := .exhausted }, c.releaseCursor, .error (.arrow e))
  | .ok builders =>
    match rest with
    | .error f => ({ s with state := .exhausted }, c.releaseCursor, .error (.client (.fault f)))
    | .ok cur =>
      let (s, c) :=
        if taken.isEmpty then ({ s with state := .exhausted }, c.releaseCursor)
        else ({ s with state := .streaming cur }, c)
      let s := { s with rowsEmitted := s.rowsEmitted + taken.length }
      (s, c, (s.finish builders taken.length).mapError .arrow)

/-- Pulls up to `n` rows (clamped to `1..2048`); `live` says whether the cluster is still
held by anyone, which an attached scan needs to start. -/
def nextBatch (s : Scan) (c : Cluster) (live : Bool) (n : Nat) :
    Scan × Cluster × Except ScanError Batch :=
  let n := clampRows n
  match s.state with
  | .exhausted => (s, c, .ok (Batch.empty s.schema))
  | .streaming cur => s.pull c cur n
  | .unstarted =>
    if s.hold == .attached && !live then
      ({ s with state := .exhausted }, c, .error (.client (.fault (.connection .detached))))
    else
      match c.openCursor (s.source.toCql s.columns) with
      | (c, .ok cur) => s.pull c cur n
      | (c, .error e) => ({ s with state := .exhausted }, c, .error (.client e))

/-- Ends the scan early, releasing its cursor. -/
def close (s : Scan) (c : Cluster) : Scan × Cluster :=
  match s.state with
  | .streaming _ => ({ s with state := .exhausted }, c.releaseCursor)
  | _ => ({ s with state := .exhausted }, c)

/-- What dropping the scan does to the cluster: its cursor, if open, is released. -/
def release (s : Scan) (c : Cluster) : Cluster :=
  match s.state with
  | .streaming _ => c.releaseCursor
  | _ => c

end Scan

end CqlBridge
