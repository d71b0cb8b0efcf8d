import CqlBridge.Proofs.ScanBatch

/-!
# `CqlBridge.Proofs.ScanRun` — a scan over its whole life

A caller pulls batches from a scan, may close it early, and at last drops it. This module
states the contract of such a run as a small machine over the rows of the scan's statement and
shows that the executor follows it, call by call, whatever the calls and their sizes.

| stage | executor state | statement logged | cursor open | a pull hands out |
|---|---|---|---|---|
| `fresh` | `unstarted` | no | no | the first `clampRows n` rows |
| `live rest` | `streaming` | yes | yes | the next `clampRows n` rows of `rest` |
| `ended ran` | `exhausted` | when `ran` | no | no row |

A pull that finds no row ends the scan; so does a close. The statement runs on the first pull,
and never when a close comes first. Each answered batch is the contract's batch
(`Scan.expectedBatch`) of the rows handed out, and the count of rows emitted is their total.
-/

namespace CqlBridge

/-- What a caller does with a scan: pull up to `n` rows, or close it early. -/
inductive ScanCall where
  | pull (n : Nat)
  | close
  deriving DecidableEq, Repr

/-- Whether a call is a pull. -/
@[simp] def ScanCall.isPull : ScanCall → Bool
  | .pull _ => true
  | .close => false

/-! ## The contract -/

/-- Where a scan stands by its contract over the rows of its statement: not pulled yet, handing
out the rows `rest`, or ended, where `ran` says whether the statement ran before the end. -/
inductive Stage where
  | fresh
  | live (rest : List Row)
  | ended (ran : Bool)
  deriving Repr

namespace Stage

/-- The rows not yet handed out; none once ended. -/
@[simp] def remaining (rows : List Row) : Stage → List Row
  | .fresh => rows
  | .live rest => rest
  | .ended _ => []

/-- A pull of up to `n` rows hands out the next `clampRows n` rows not yet handed out, and ends
the scan when there are none. An ended scan hands out nothing and stays as it is. -/
def pull (rows : List Row) (n : Nat) : Stage → Stage × List Row
  | .ended ran => (.ended ran, [])
  | st =>
    let rest := st.remaining rows
    let taken := rest.take (clampRows n)
    (if taken.isEmpty then .ended true else .live (rest.drop (clampRows n)), taken)

/-- An early close ends the scan; its statement ran exactly when it was pulled before. -/
@[simp] def close : Stage → Stage
  | .fresh => .ended false
  | .live _ => .ended true
  | .ended ran => .ended ran

/-- The stage after a run of calls, and the rows each pull of the run hands out. -/
def run (rows : List Row) : Stage → List ScanCall → Stage × List (List Row)
  | st, [] => (st, [])
  | st, .pull n :: calls =>
    let (st, chunk) := st.pull rows n
    let (st, chunks) := st.run rows calls
    (st, chunk :: chunks)
  | st, .close :: calls => st.close.run rows calls

/-- Whether the statement has run. -/
@[simp] def ran : Stage → Bool
  | .fresh => false
  | .live _ => true
  | .ended ran => ran

/-- Whether the scan holds an open cursor. -/
@[simp] def streams : Stage → Bool
  | .live _ => true
  | _ => false

/-- The executor's phase at this stage. -/
@[simp] def phase : Stage → Phase
  | .fresh => .unstarted
  | .live _ => .streaming
  | .ended _ => .exhausted

/-- The executor's state at this stage, for a cursor with the result columns `cols`. -/
@[simp] def state (cols : List ResultColumn) : Stage → ScanState
  | .fresh => .unstarted
  | .live rest => .streaming { columns := cols, rows := rest }
  | .ended _ => .exhausted

/-! ### What a pull hands out

A pull before the end takes the next `clampRows n` rows not yet handed out: as many as it asks
for, or all the rows left if fewer, and it leaves the rest. The scan streams on after a pull that
handed out a row and is ended after one that handed out none. -/

theorem clampRows_pos (n : Nat) : 0 < clampRows n := by
  unfold clampRows
  omega

theorem pull_of_not_ended (st : Stage) (h : ∀ ran, st ≠ .ended ran) (rows : List Row) (n : Nat) :
    st.pull rows n =
      (if ((st.remaining rows).take (clampRows n)).isEmpty then .ended true
        else .live ((st.remaining rows).drop (clampRows n)),
        (st.remaining rows).take (clampRows n)) := by
  cases st with
  | fresh => rfl
  | live rest => rfl
  | ended ran => exact absurd rfl (h ran)

theorem pull_length (rows : List Row) (n : Nat) (st : Stage) :
    (st.pull rows n).2.length = min (clampRows n) (st.remaining rows).length := by
  cases st with
  | ended ran => simp [pull, remaining]
  | fresh => simp [pull_of_not_ended .fresh nofun]
  | live rest => simp [pull_of_not_ended (.live rest) nofun]

theorem pull_append_remaining (rows : List Row) (n : Nat) (st : Stage) :
    (st.pull rows n).2 ++ (st.pull rows n).1.remaining rows = st.remaining rows := by
  have hgive : ∀ rest : List Row,
      rest.take (clampRows n) ++
        (if (rest.take (clampRows n)).isEmpty then Stage.ended true
          else .live (rest.drop (clampRows n))).remaining rows = rest := by
    intro rest
    by_cases h : (rest.take (clampRows n)).isEmpty
    · -- a pull asks for at least one row, so finding none means none was left
      have hnil : rest = [] := by
        have hpos := clampRows_pos n
        simp only [List.isEmpty_iff, List.take_eq_nil_iff] at h
        rcases h with h | h
        · omega
        · exact h
      simp [hnil, remaining]
    · simp [h, remaining]
  cases st with
  | ended ran => simp [pull, remaining]
  | fresh => rw [pull_of_not_ended .fresh nofun]; exact hgive rows
  | live rest => rw [pull_of_not_ended (.live rest) nofun]; exact hgive rest

theorem phase_pull (rows : List Row) (n : Nat) (st : Stage) :
    (st.pull rows n).1.phase = if (st.pull rows n).2.isEmpty then .exhausted else .streaming := by
  cases st with
  | ended ran => rfl
  | fresh =>
      -- a pull asks for at least one row, so it finds none only when none is left
      rw [pull_of_not_ended .fresh nofun]
      by_cases h : rows = [] <;> simp [h, (clampRows_pos n).ne']
  | live rest =>
      rw [pull_of_not_ended (.live rest) nofun]
      by_cases h : rest = [] <;> simp [h, (clampRows_pos n).ne']

/-! ### What a run hands out

Every row is handed out at most once and in order, and a close drops the rows it leaves
(`run_flatten_prefix`); a run of pulls alone hands out every row it passes, and hands out no
row at the latest on the pull after the rows left are used up. Once ended, a scan stays ended
and each pull hands out no row. Pulls and closes never unlog a statement that ran, and the
statement runs exactly when the first call is a pull. -/

@[simp] theorem run_nil (rows : List Row) (st : Stage) : st.run rows [] = (st, []) := rfl

@[simp] theorem run_pull (rows : List Row) (st : Stage) (n : Nat) (calls : List ScanCall) :
    st.run rows (.pull n :: calls) =
      (((st.pull rows n).1.run rows calls).1,
        (st.pull rows n).2 :: ((st.pull rows n).1.run rows calls).2) := rfl

@[simp] theorem run_close (rows : List Row) (st : Stage) (calls : List ScanCall) :
    st.run rows (.close :: calls) = st.close.run rows calls := rfl

theorem run_ended (rows : List Row) (ran : Bool) (calls : List ScanCall) :
    (Stage.ended ran).run rows calls = (.ended ran, (calls.filter ScanCall.isPull).map fun _ => []) := by
  induction calls with
  | nil => rfl
  | cons call calls ih =>
      cases call with
      | pull n => simp [pull, ih, List.filter_cons]
      | close => simp [ih]

/-- Every row is handed out at most once and in order: the rows handed out, followed by those
left, begin the rows that were left at the start. A close drops the rows it leaves. -/
theorem run_flatten_prefix (rows : List Row) (calls : List ScanCall) :
    ∀ st : Stage, (st.run rows calls).2.flatten ++ (st.run rows calls).1.remaining rows <+:
      st.remaining rows := by
  induction calls with
  | nil => intro st; simp
  | cons call calls ih =>
      intro st
      cases call with
      | pull n =>
          have hnext := ih (st.pull rows n).1
          simp only [run_pull, List.flatten_cons, List.append_assoc]
          rw [← pull_append_remaining rows n st]
          exact (List.prefix_append_right_inj _).2 hnext
      | close =>
          have hnext := ih st.close
          have hnil : st.close.remaining rows = [] := by cases st <;> rfl
          rw [hnil, List.prefix_nil] at hnext
          rw [run_close, hnext]
          exact List.nil_prefix

theorem run_flatten_of_pulls (rows : List Row) (calls : List ScanCall)
    (hpulls : ∀ call ∈ calls, call.isPull = true) :
    ∀ st : Stage, (st.run rows calls).2.flatten ++ (st.run rows calls).1.remaining rows =
      st.remaining rows := by
  induction calls with
  | nil => intro st; simp
  | cons call calls ih =>
      intro st
      have hrest := ih fun c hc => hpulls c (List.mem_cons_of_mem call hc)
      cases call with
      | pull n =>
          simp only [run_pull, List.flatten_cons, List.append_assoc]
          rw [hrest, pull_append_remaining]
      | close => exact absurd (hpulls .close List.mem_cons_self) (by decide)

-- three rows pulled two at a time: two, then one, then none, which ends the scan
example : (Stage.fresh.run [[], [], []] [.pull 2, .pull 2, .pull 2, .pull 2]).2.map List.length =
    [2, 1, 0, 0] := rfl

theorem ran_run {st : Stage} (h : st.ran = true) (rows : List Row) (calls : List ScanCall) :
    (st.run rows calls).1.ran = true := by
  induction calls generalizing st with
  | nil => exact h
  | cons call calls ih =>
      cases call with
      | pull n =>
          have hp : (st.pull rows n).1.ran = true := by
            cases st with
            | fresh => cases h
            | live rest =>
                rw [pull_of_not_ended (.live rest) nofun]
                split <;> rfl
            | ended ran => exact h
          rw [run_pull]
          exact ih hp
      | close =>
          apply ih
          cases st with
          | fresh => cases h
          | live rest => rfl
          | ended ran => exact h

theorem ran_run_fresh (rows : List Row) (calls : List ScanCall) :
    (Stage.fresh.run rows calls).1.ran = calls.head?.any ScanCall.isPull := by
  cases calls with
  | nil => rfl
  | cons call calls =>
      cases call with
      | pull n =>
          have hp : (Stage.fresh.pull rows n).1.ran = true := by
            rw [pull_of_not_ended .fresh nofun]
            split <;> rfl
          rw [run_pull]
          exact ran_run hp rows calls
      | close => simp [run_ended]

theorem pull_ended_of_nil {rows : List Row} {n : Nat} {st : Stage} (h : (st.pull rows n).2 = []) :
    ∃ ran, (st.pull rows n).1 = .ended ran := by
  have hphase := phase_pull rows n st
  rw [h] at hphase
  cases hst : (st.pull rows n).1 with
  | ended ran => exact ⟨ran, rfl⟩
  | fresh => rw [hst] at hphase; cases hphase
  | live rest => rw [hst] at hphase; cases hphase

theorem remaining_run_of_nil_mem {rows : List Row} (calls : List ScanCall) :
    ∀ {st : Stage}, [] ∈ (st.run rows calls).2 → (st.run rows calls).1.remaining rows = [] := by
  induction calls with
  | nil => intro st h; simp at h
  | cons call calls ih =>
      intro st h
      cases call with
      | pull n =>
          rw [run_pull] at h ⊢
          rcases List.mem_cons.1 h with h | h
          · obtain ⟨ran, hran⟩ := pull_ended_of_nil h.symm
            rw [hran, run_ended]
            rfl
          · exact ih h
      | close => exact ih h

theorem nil_mem_run_of_pulls {rows : List Row} (calls : List ScanCall)
    (hpulls : ∀ call ∈ calls, call.isPull = true) :
    ∀ {st : Stage}, (st.remaining rows).length < calls.length → [] ∈ (st.run rows calls).2 := by
  induction calls with
  | nil => intro st h; simp at h
  | cons call calls ih =>
      intro st hlen
      cases call with
      | close => exact absurd (hpulls .close List.mem_cons_self) (by decide)
      | pull n =>
          rw [run_pull]
          by_cases hnil : (st.pull rows n).2 = []
          · rw [hnil]
            exact List.mem_cons_self
          · -- a pull that finds rows takes at least one, so fewer are left than pulls to come
            refine List.mem_cons_of_mem _ (ih (fun c hc => hpulls c (List.mem_cons_of_mem _ hc)) ?_)
            have hsplit := congrArg List.length (pull_append_remaining rows n st)
            have hpos : 0 < (st.pull rows n).2.length := List.length_pos_iff.2 hnil
            simp only [List.length_append, List.length_cons] at hsplit hlen
            omega

end Stage

/-! ## The cluster a scan leaves -/

namespace Cluster

/-- The cluster after a scan of `cql` from this one: the statement logged when it `ran`, and
one more cursor open while the scan `streams`. -/
def afterScan (c : Cluster) (cql : String) (ran streams : Bool) : Cluster :=
  { c with executed := c.executed ++ (if ran then [cql] else []),
           openCursors := c.openCursors + (if streams then 1 else 0) }

@[simp] theorem afterScan_false_false (c : Cluster) (cql : String) :
    c.afterScan cql false false = c := by
  simp [afterScan]

@[simp] theorem releaseCursor_afterScan (c : Cluster) (cql : String) (ran : Bool) :
    (c.afterScan cql ran true).releaseCursor = c.afterScan cql ran false := by
  simp [afterScan, releaseCursor]

theorem openCursor_of_answer {c : Cluster} {cql : String} {r : ResultSet}
    (hq : c.answer cql [] = .ok r) :
    c.openCursor cql = (c.afterScan cql true true, .ok { columns := r.columns, rows := r.rows }) := by
  -- answering reads neither the log nor the cursor count
  have hlog : ({ c with executed := c.executed ++ [cql] } : Cluster).answer cql [] =
      c.answer cql [] := rfl
  simp [openCursor, execute, hlog, hq, afterScan]

end Cluster

/-! ## The executor follows the contract

`Tracks` says that the scan and the cluster stand where a stage puts them. A pull from the
cursor the statement opened hands out what the contract's pull does and releases the cursor
when it finds no row (`pull_tracks`); so a pull, a close and dropping the scan each move the
executor as the contract moves its stage (the step lemmas), and `run_tracks` carries that over
any run. -/

namespace Scan

/-- Runs calls on a scan in order, over a cluster that is reachable when `live`; the answers
are the pulls'. -/
def run (live : Bool) : Scan → Cluster → List ScanCall → Scan × Cluster × List (Except ScanError Batch)
  | s, c, [] => (s, c, [])
  | s, c, .pull n :: calls =>
    let (s, c, r) := s.nextBatch c live n
    let (s, c, rs) := s.run live c calls
    (s, c, r :: rs)
  | s, c, .close :: calls =>
    let (s, c) := s.close c
    s.run live c calls

/-- The scan and the cluster stand where the contract's stage `st` puts them, for the statement
`cql` run from the cluster `c₀` with a cursor of result columns `cols`. -/
def Tracks (c₀ : Cluster) (cql : String) (cols : List ResultColumn) (st : Stage) (s : Scan)
    (c : Cluster) : Prop :=
  s.state = st.state cols ∧ c = c₀.afterScan cql st.ran st.streams

section Tracking

variable {c₀ : Cluster} {r : ResultSet} {live : Bool}

theorem pull_tracks (s : Scan) (cql : String) (cols : List ResultColumn) (rest : List Row)
    (n : Nat) :
    s.pull (c₀.afterScan cql true true) { columns := cols, rows := rest } (clampRows n) =
      let next := if (rest.take (clampRows n)).isEmpty then Stage.ended true
        else .live (rest.drop (clampRows n))
      ({ s with
          state := next.state cols,
          rowsEmitted := s.rowsEmitted + (rest.take (clampRows n)).length },
        c₀.afterScan cql next.ran next.streams,
        .ok (s.expectedBatch (min cols.length s.columns.length) (rest.take (clampRows n)))) := by
  rw [pull_eq (Cursor.rest_eq_ok (.inl rfl))]
  by_cases hk : (rest.take (clampRows n)).isEmpty <;> simp [hk]

theorem nextBatch_tracks {s : Scan} {c : Cluster} {st : Stage}
    (hq : c₀.answer (s.source.toCql s.columns) [] = .ok r) (hlive : s.hold = .owned ∨ live = true)
    (h : Tracks c₀ (s.source.toCql s.columns) r.columns st s c) (n : Nat) :
    s.nextBatch c live n =
      ({ s with
          state := (st.pull r.rows n).1.state r.columns,
          rowsEmitted := s.rowsEmitted + (st.pull r.rows n).2.length },
        c₀.afterScan (s.source.toCql s.columns) (st.pull r.rows n).1.ran (st.pull r.rows n).1.streams,
        .ok (s.expectedBatch (min r.columns.length s.columns.length) (st.pull r.rows n).2)) := by
  obtain ⟨hs, rfl⟩ := h
  cases st with
  | fresh =>
      -- the first pull opens the cursor over all the rows
      simp only [Stage.state, Stage.ran, Stage.streams, Cluster.afterScan_false_false] at hs ⊢
      rw [nextBatch_unstarted hs hlive (Cluster.openCursor_of_answer hq), pull_tracks,
        Stage.pull_of_not_ended .fresh nofun]
      rfl
  | live rest =>
      simp only [Stage.state, Stage.ran, Stage.streams] at hs ⊢
      rw [nextBatch_streaming hs, pull_tracks, Stage.pull_of_not_ended (.live rest) nofun]
      rfl
  | ended ran =>
      simp only [Stage.state] at hs
      rw [nextBatch_exhausted hs, expectedBatch_nil]
      obtain ⟨hold, source, columns, state, emitted⟩ := s
      simp only at hs
      subst hs
      simp [Stage.pull]

theorem close_tracks {s : Scan} {c : Cluster} {st : Stage} {cql : String} {cols : List ResultColumn}
    (h : Tracks c₀ cql cols st s c) :
    s.close c = ({ s with state := st.close.state cols },
      c₀.afterScan cql st.close.ran st.close.streams) := by
  obtain ⟨hs, rfl⟩ := h
  -- the stage fixes the executor's state, and with it what closing the scan does
  cases st <;> simp only [Stage.state] at hs <;> simp [close, hs]

theorem release_tracks {s : Scan} {c : Cluster} {st : Stage} {cql : String}
    {cols : List ResultColumn} (h : Tracks c₀ cql cols st s c) :
    s.release c = c₀.afterScan cql st.ran false := by
  obtain ⟨hs, rfl⟩ := h
  -- the stage fixes the executor's state, and with it what dropping the scan does
  cases st <;> simp only [Stage.state] at hs <;> simp [release, hs]

@[simp] theorem expectedBatch_with (s : Scan) (st : ScanState) (k : Nat) :
    ({ s with state := st, rowsEmitted := k } : Scan).expectedBatch = s.expectedBatch := rfl

/-- **The run lemma.** Over any calls, the executor moves as the contract's stage does: its state
and the cluster follow the stage, each pull answers the contract's batch of the rows the
contract hands out, and the rows emitted grow by their count. The induction runs over the calls,
with the stage, scan and cluster generalized. -/
theorem run_tracks (calls : List ScanCall) :
    ∀ (st : Stage) (s : Scan) (c : Cluster),
      c₀.answer (s.source.toCql s.columns) [] = .ok r → (s.hold = .owned ∨ live = true) →
      Tracks c₀ (s.source.toCql s.columns) r.columns st s c →
      s.run live c calls =
        ({ s with
            state := (st.run r.rows calls).1.state r.columns,
            rowsEmitted := s.rowsEmitted + ((st.run r.rows calls).2.map List.length).sum },
          c₀.afterScan (s.source.toCql s.columns) (st.run r.rows calls).1.ran
            (st.run r.rows calls).1.streams,
          (st.run r.rows calls).2.map fun rows =>
            .ok (s.expectedBatch (min r.columns.length s.columns.length) rows)) := by
  induction calls with
  | nil =>
      rintro st ⟨hold, source, columns, state, emitted⟩ c - - ⟨hs, rfl⟩
      simp only at hs
      subst hs
      simp [run]
  | cons call calls ih =>
      intro st s c hq hlive h
      cases call with
      | pull n =>
          simp only [run]
          rw [nextBatch_tracks hq hlive h n]
          dsimp only
          rw [ih (st.pull r.rows n).1
            { s with
              state := (st.pull r.rows n).1.state r.columns,
              rowsEmitted := s.rowsEmitted + (st.pull r.rows n).2.length } _ hq hlive ⟨rfl, rfl⟩]
          simp [Nat.add_assoc]
      | close =>
          simp only [run]
          rw [close_tracks h]
          dsimp only
          rw [ih st.close { s with state := st.close.state r.columns } _ hq hlive ⟨rfl, rfl⟩]
          simp

end Tracking

/-- **A scan's whole life follows its contract.** Take a fresh scan whose statement answers a
result `r` on a cluster `c` that it can reach, and any calls, pulls of any sizes and closes. Each
pull answers, without error, the contract's batch of the rows the contract hands out
(`Stage.run`): the next `clampRows n` rows not yet handed out, and none once a pull found none
or the scan was closed. The scan's phase is the contract's, and its count of rows emitted is the
total handed out. The cluster differs from `c` only in its log, which holds the statement once
exactly when the first call was a pull, and in one more open cursor while the scan streams;
dropping the scan leaves the count of open cursors as it was. -/
theorem run_follows_contract (hold : Hold) (source : ScanSource) (columns : List ScanColumn)
    (c : Cluster) (live : Bool) (r : ResultSet)
    (hq : c.answer (source.toCql columns) [] = .ok r) (hlive : hold = .owned ∨ live = true)
    (calls : List ScanCall) :
    let s : Scan := ⟨hold, source, columns, .unstarted, 0⟩
    let after := s.run live c calls
    let spec := Stage.fresh.run r.rows calls
    after.2.2 = spec.2.map (fun rows => .ok (s.expectedBatch (min r.columns.length columns.length) rows)) ∧
    after.1.phase = spec.1.phase ∧
    after.1.rowsEmitted = (spec.2.map List.length).sum ∧
    after.2.1 = c.afterScan (source.toCql columns) (calls.head?.any ScanCall.isPull) spec.1.streams ∧
    after.1.release after.2.1 = c.afterScan (source.toCql columns) (calls.head?.any ScanCall.isPull) false := by
  intro s after spec
  have htrack : Tracks c (s.source.toCql s.columns) r.columns .fresh s c := ⟨rfl, by simp⟩
  have hrun := run_tracks calls .fresh s c hq hlive htrack
  have hran := Stage.ran_run_fresh r.rows calls
  have hafter : after = _ := hrun
  refine ⟨?answers, ?phase, ?emitted, ?cluster, ?release⟩
  case answers => rw [hafter]
  case phase =>
    rw [hafter]
    cases spec.1 <;> rfl
  case emitted =>
    rw [hafter]
    exact Nat.zero_add _
  case cluster =>
    rw [hafter, ← hran]
  case release =>
    rw [hafter, ← hran]
    exact release_tracks ⟨rfl, rfl⟩

/-- A statement with a fixed answer of three rows, scanned two rows at a time and closed in
between, meets the hypotheses of `run_follows_contract`. -/
theorem run_follows_contract_fixed_answer :
    let cql := "SELECT v FROM t"
    let columns : List ScanColumn := [⟨"v", .integer⟩]
    let r : ResultSet := ⟨[], [[], [], []]⟩
    let c : Cluster := { canned := [(cql, r)] }
    let calls := [ScanCall.pull 2, .pull 2, .close, .pull 5]
    c.answer ((ScanSource.query cql).toCql columns) [] = .ok r ∧
    (Hold.owned = .owned ∨ false = true) ∧
    let s : Scan := ⟨.owned, .query cql, columns, .unstarted, 0⟩
    let after := s.run false c calls
    let spec := Stage.fresh.run r.rows calls
    after.2.2 = spec.2.map (fun rows => .ok (s.expectedBatch (min r.columns.length columns.length) rows)) ∧
    after.1.phase = spec.1.phase ∧
    after.1.rowsEmitted = (spec.2.map List.length).sum ∧
    after.2.1 = c.afterScan ((ScanSource.query cql).toCql columns) (calls.head?.any ScanCall.isPull)
      spec.1.streams ∧
    after.1.release after.2.1 =
      c.afterScan ((ScanSource.query cql).toCql columns) (calls.head?.any ScanCall.isPull) false :=
  ⟨rfl, .inl rfl,
    run_follows_contract .owned (.query "SELECT v FROM t") [⟨"v", .integer⟩]
      { canned := [("SELECT v FROM t", ⟨[], [[], [], []]⟩)] } false ⟨[], [[], [], []]⟩ rfl (.inl rfl)
      [.pull 2, .pull 2, .close, .pull 5]⟩

end Scan

end CqlBridge
