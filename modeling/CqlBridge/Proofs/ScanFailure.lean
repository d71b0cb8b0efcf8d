import CqlBridge.Proofs.ScanRun

/-!
# `CqlBridge.Proofs.ScanFailure` — a failed pull ends its scan cleanly

A pull fails at one of three points (`Scan.FailureCause`):

| cause | answer | cluster afterwards |
|---|---|---|
| an attached scan whose cluster is gone | a connection fault | as it was |
| the scan's statement fails, or the cluster crashes on it | that failure | the statement logged |
| the cursor cannot fetch the rows the pull still asks for | the fetch's fault | the cursor released |

Filling and assembling a batch never refuse (`Scan.pull_eq`), so a scan that streams fails only
the third way: it read fewer rows than it asked for and its result ended in a failed fetch. The
rows read before the failure are dropped with the builders, and no batch is answered.

Every failure leaves the scan exhausted (`Scan.EndsCleanly`): it holds no cursor, its count of
rows emitted is the one before, the cluster differs from what dropping the scan would have left
at most by the statement in its log, and every later call answers a pull with the empty batch
of the scan's schema, running nothing and leaving the cluster as it is.
-/

namespace CqlBridge

namespace Cluster

theorem openCursor_eq_error {c c' : Cluster} {cql : String} {e : Stop}
    (h : c.openCursor cql = (c', .error e)) :
    c' = c.afterScan cql true false ∧ c.answer cql [] = .error e := by
  -- answering reads neither the log nor the cursor count
  have hlog : ({ c with executed := c.executed ++ [cql] } : Cluster).answer cql [] =
      c.answer cql [] := rfl
  rcases hq : c.answer cql [] with e' | r
  · simp only [openCursor, execute, hlog, hq, Prod.mk.injEq] at h
    obtain ⟨rfl, he⟩ := h
    cases he
    exact ⟨by simp [afterScan], rfl⟩
  · simp [openCursor, execute, hlog, hq] at h

end Cluster

namespace Scan

/-- Where a pull of `s` on `c` for `n` rows fails, and with what. -/
inductive FailureCause (s : Scan) (c : Cluster) (live : Bool) (n : Nat) : ScanError → Prop
  | detached (hs : s.state = .unstarted) (hhold : s.hold = .attached) (hlive : live = false) :
      FailureCause s c live n (.client (.fault (.connection .detached)))
  | statement {st : Stop} (hs : s.state = .unstarted) (hlive : s.hold = .owned ∨ live = true)
      (hq : c.answer (s.source.toCql s.columns) [] = .error st) :
      FailureCause s c live n (.client st)
  | cursor {cur : Cursor} {f : Fault} (hs : s.state = .streaming cur)
      (hf : cur.failure = some f) (hshort : cur.rows.length < clampRows n) :
      FailureCause s c live n (.client (.fault f))

theorem pull_eq_error_inv {s s' : Scan} {c c' : Cluster} {cur : Cursor} {m : Nat}
    {e : ScanError} (h : s.pull c cur m = (s', c', .error e)) :
    ∃ f, cur.rest m = .error f ∧ e = .client (.fault f) ∧ s' = { s with state := .exhausted } ∧
      c' = c.releaseCursor := by
  rcases hrest : cur.rest m with f | cur'
  · rw [pull_eq_error hrest, Prod.mk.injEq, Prod.mk.injEq] at h
    obtain ⟨rfl, rfl, he⟩ := h
    cases he
    exact ⟨f, rfl, rfl, rfl, rfl⟩
  · rw [pull_eq hrest] at h
    simp at h

/-- **Where a pull fails.** A failed pull has one of the three causes, leaves the scan exhausted
and otherwise as it was, and leaves the cluster as dropping the scan would have, but for the
scan's statement, logged when the failing pull was the first. -/
theorem nextBatch_eq_error {s s' : Scan} {c c' : Cluster} {live : Bool} {n : Nat} {e : ScanError}
    (h : s.nextBatch c live n = (s', c', .error e)) :
    FailureCause s c live n e ∧ s' = { s with state := .exhausted } ∧
      ∃ ran, (ran = true → s.phase = .unstarted) ∧
        c' = (s.release c).afterScan (s.source.toCql s.columns) ran false := by
  have hpath := nextBatch_path s c live n
  generalize s.nextBatch c live n = r at hpath h
  have hrel : s.state = .unstarted → s.release c = c := fun hs => by simp [release, hs]
  cases hpath with
  | ended hs => cases h
  | streams hs =>
      -- the cursor fails to read: its fault ends the scan and the cursor is released
      obtain ⟨f, hrest, rfl, rfl, rfl⟩ := pull_eq_error_inv h
      obtain ⟨hf, hshort⟩ := Cursor.rest_eq_error.1 hrest
      exact ⟨.cursor hs hf hshort, rfl, false, by simp, by simp [release, hs]⟩
  | detached hs hhold hlive =>
      -- the cluster is gone: nothing runs
      cases h
      exact ⟨.detached hs hhold hlive, rfl, false, by simp, by simp [hrel hs]⟩
  | refused hs hlive hopen =>
      -- the statement fails when its cursor is opened
      cases h
      obtain ⟨hc', hq⟩ := Cluster.openCursor_eq_error hopen
      exact ⟨.statement hs hlive hq, rfl, true, fun _ => by simp [phase, hs], by rw [hrel hs, hc']⟩
  | opens hs hlive hopen =>
      -- the statement answered, and the cursor it opened reads to its end
      obtain ⟨f, hrest, -⟩ := pull_eq_error_inv h
      rw [Cursor.rest_eq_ok (.inl (Cluster.failure_openCursor hopen))] at hrest
      cases hrest

theorem run_exhausted {s : Scan} (h : s.state = .exhausted) (live : Bool) (c : Cluster)
    (calls : List ScanCall) :
    s.run live c calls =
      (s, c, (calls.filter ScanCall.isPull).map fun _ => .ok (Batch.empty s.schema)) := by
  have hclose : s.close c = (s, c) := by
    obtain ⟨hold, source, columns, state, emitted⟩ := s
    simp only at h
    subst h
    rfl
  -- over the calls: an exhausted scan answers each one and stays as it is
  induction calls with
  | nil => rfl
  | cons call calls ih =>
      cases call with
      | pull n => simp [run, nextBatch_exhausted h, ih, List.filter_cons]
      | close => simp [run, hclose, ih]

/-- What a pull of `s` on `c` for `n` rows that failed with `e` leaves, `s'` and `c'`: the
failure has one of the three causes; the scan is exhausted with its count of rows of before;
the cluster is what dropping `s` would have left, with the scan's statement in its log only when
the failing pull was the first, so no cursor is left open and dropping the scan releases none;
every later call leaves scan and cluster as they are, each pull answering the empty batch of the
scan's schema. -/
structure EndsCleanly (s : Scan) (c : Cluster) (live : Bool) (n : Nat) (e : ScanError)
    (s' : Scan) (c' : Cluster) : Prop where
  cause : FailureCause s c live n e
  exhausted : s'.phase = .exhausted
  rowsEmitted : s'.rowsEmitted = s.rowsEmitted
  cluster : ∃ ran, (ran = true → s.phase = .unstarted) ∧
    c' = (s.release c).afterScan (s.source.toCql s.columns) ran false
  noCursor : s'.release c' = c'
  absorbs : ∀ live calls, s'.run live c' calls =
    (s', c', (calls.filter ScanCall.isPull).map fun _ => .ok (Batch.empty s.schema))

/-- **A failed pull ends its scan cleanly**, whatever the scan, the cluster and the failure,
before the statement, at it, or part-way through a batch: no batch, no cursor, no rows counted,
and nothing run by any later call. -/
theorem nextBatch_error_ends_cleanly (s : Scan) (c : Cluster) (live : Bool) (n : Nat)
    (e : ScanError) (h : (s.nextBatch c live n).2.2 = .error e) :
    EndsCleanly s c live n e (s.nextBatch c live n).1 (s.nextBatch c live n).2.1 := by
  rcases hnb : s.nextBatch c live n with ⟨s', c', r⟩
  rw [hnb] at h
  subst h
  obtain ⟨hcause, rfl, hc'⟩ := nextBatch_eq_error hnb
  have hend : ({ s with state := .exhausted } : Scan).state = .exhausted := rfl
  refine ⟨hcause, by simp [phase], rfl, hc', by simp [release], fun live' calls => ?_⟩
  -- the exhausted scan keeps the bound columns, and with them the schema
  exact run_exhausted hend live' c' calls

/-- A scan streaming from a cursor that holds one more row and then fails to fetch the next
page: a pull of ten reads the row, answers the fetch's fault, releases the cursor, counts no
row, and the scan ends cleanly. -/
theorem nextBatch_error_ends_cleanly_failed_fetch :
    let cur : Cursor :=
      { columns := [⟨"v", .scalar .int⟩], rows := [[some (.int 7)]],
        failure := some (.queryFailed "SELECT v FROM t" "page fetch failed") }
    let s : Scan := ⟨.owned, .query "SELECT v FROM t", [⟨"v", .integer⟩], .streaming cur, 2⟩
    let c : Cluster := { openCursors := 1 }
    (s.nextBatch c true 10).2.2 =
        .error (.client (.fault (.queryFailed "SELECT v FROM t" "page fetch failed"))) ∧
      (s.nextBatch c true 10).1.rowsEmitted = 2 ∧ (s.nextBatch c true 10).2.1.openCursors = 0 ∧
      EndsCleanly s c true 10 (.client (.fault (.queryFailed "SELECT v FROM t" "page fetch failed")))
        (s.nextBatch c true 10).1 (s.nextBatch c true 10).2.1 :=
  ⟨rfl, rfl, rfl, nextBatch_error_ends_cleanly _ _ true 10 _ rfl⟩

end Scan

end CqlBridge
