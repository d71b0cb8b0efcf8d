import CqlBridge.Sql.Catalog
import CqlBridge.Sql.Eval

/-!
# `CqlBridge.Sql.Exec` — running a plan

A plan runs bottom-up into rows. Host scans go through the host, whose state the run threads
(and keeps when a step fails). Scans run in the order a single-threaded engine runs them:
the right side of a join before the left, a block's scalar subqueries before the block, and
the left side of a set operation before the right.

* A join pairs every left row with every right row that satisfies the condition; an outer
  join adds the unmatched rows of its outer side padded with NULLs.
* Aggregation sorts the rows by their group keys and computes each aggregate per group; with
  no keys there is exactly one group, even over no rows.
* Sorting is stable and compares key by key, NULLs first or last as asked.
* `UNION`, `EXCEPT` and `INTERSECT` without `ALL` remove repeated rows.
-/

namespace CqlBridge.Sql

/-- The execution monad over the host's state; the state survives an error. -/
abbrev ExecM (σ : Type) := EStateM SqlError σ

namespace Exec

variable {σ β : Type}

/-- Runs a result that may have failed. -/
def liftExcept {α : Type} : Except SqlError α → ExecM σ α
  | .ok a => pure a
  | .error e => throw e

/-- Runs a step of the host. -/
def liftHost {α : Type} (f : σ → σ × Except SqlError α) : ExecM σ α := fun s =>
  let (s, r) := f s
  match r with
  | .ok a => .ok a s
  | .error e => .error e s

/-- Whether two rows are the same row, NULLs equal. -/
def sameRow (a b : Row) : Bool := Val.rowCmp a b == .eq

/-- Rows with repeats taken out, the first of each kept. -/
def dedupRows (rows : List Row) : List Row :=
  rows.foldl (fun acc r => if acc.any (sameRow r) then acc else acc ++ [r]) []

/-- The rows of `xs` that occur in `ys` (or, with `keep := false`, that do not). -/
def rowsIn (keep : Bool) (xs ys : List Row) : List Row :=
  xs.filter fun r => ys.any (sameRow r) == keep

/-- The rows of a filter. -/
def filterRows (subs : List Val) (cond : BExpr) : List Row → Except SqlError (List Row)
  | [] => .ok []
  | r :: rs => do
    let v ← eval subs r cond
    let rest ← filterRows subs cond rs
    .ok (if v.isTrue then r :: rest else rest)

/-- The rows of a projection. -/
def projectRows (subs : List Val) (es : List BExpr) : List Row → Except SqlError (List Row)
  | [] => .ok []
  | r :: rs => do
    let v ← evalList subs r es
    let rest ← projectRows subs es rs
    .ok (v :: rest)

/-- Joined rows: each left row with the right rows that satisfy the condition; the unmatched
left rows padded with NULLs when `outer`; and the numbers of the right rows that matched. -/
def joinLeft (subs : List Val) (cond : Option BExpr) (outer : Bool) (rw : Nat)
    (rights : List Row) : List Row → Except SqlError (List Row × List Nat)
  | [] => .ok ([], [])
  | l :: ls => do
    let hits ← rights.zipIdx.filterMapM fun (r, j) => do
      let ok ← match cond with
        | some c => do
          let v ← eval subs (l ++ r) c
          pure v.isTrue
        | none => pure true
      pure (if ok then some (l ++ r, j) else none)
    let (rest, more) ← joinLeft subs cond outer rw rights ls
    let here := if hits.isEmpty && outer then [l ++ List.replicate rw .null] else hits.map (·.1)
    .ok (here ++ rest, hits.map (·.2) ++ more)

/-- The rows of a join. -/
def joinRows (subs : List Val) (kind : JoinKind) (lw rw : Nat) (cond : Option BExpr)
    (lefts rights : List Row) : Except SqlError (List Row) := do
  let outerLeft := kind == .left || kind == .full
  let (rows, hits) ← joinLeft subs cond outerLeft rw rights lefts
  if kind == .right || kind == .full then
    let unmatched := rights.zipIdx.filterMap fun (r, j) =>
      if hits.contains j then none else some (List.replicate lw .null ++ r)
    .ok (rows ++ unmatched)
  else .ok rows

/-- The order of two rows under sort keys. -/
def keyCmp (keys : List SortKey) (a b : Row) : Ordering :=
  keys.foldl (fun acc k =>
    if acc != .eq then acc else
    let x := a.getD k.col .null
    let y := b.getD k.col .null
    match x.isNull, y.isNull with
    | true, true => .eq
    | true, false => if k.nullsFirst then .lt else .gt
    | false, true => if k.nullsFirst then .gt else .lt
    | false, false =>
      let o := Val.cmp x y
      if k.desc then o.swap else o) .eq

/-- Rows sorted by keys, stably. -/
def sortRows (keys : List SortKey) (rows : List Row) : List Row :=
  rows.mergeSort fun a b => keyCmp keys a b != .gt

/-- Rows grouped by equal keys, the groups in key order: each group's keys and rows. -/
def groupRows (keyed : List (Row × Row)) : List (Row × List Row) :=
  let sorted := keyed.mergeSort fun a b => Val.rowCmp a.1 b.1 != .gt
  sorted.foldr (fun (k, r) acc =>
    match acc with
    | (k', rs) :: more => if sameRow k k' then (k', r :: rs) :: more else (k, [r]) :: acc
    | [] => [(k, [r])]) []

/-- The values of one aggregate over a group's rows. -/
def aggOver (subs : List Val) (a : Agg) (rows : List Row) : Except SqlError Val := do
  let args ← rows.mapM fun r => eval subs r a.arg
  aggValue a args

/-- The rows of an aggregation: the group keys followed by the aggregate values. -/
def aggregateRows (subs : List Val) (groups : List BExpr) (aggs : List Agg) (rows : List Row) :
    Except SqlError (List Row) := do
  let keyed ← rows.mapM fun r => do
    let k ← evalList subs r groups
    pure (k, r)
  let grouped := if groups.isEmpty then [([], rows)] else groupRows keyed
  grouped.mapM fun (k, rs) => do
    let vs ← aggs.mapM fun a => aggOver subs a rs
    pure (k ++ vs)

/-- The first value of the first row, NULL for no rows. -/
def firstValue : List Row → Val
  | (v :: _) :: _ => v
  | _ => .null

mutual

/-- Runs a plan, with the values of the enclosing block's subqueries. -/
def run (host : Host σ β) (subs : List Val) : Plan β → ExecM σ (List Row)
  | .scan b => liftHost (host.scan b)
  | .rows rs => pure rs
  | .values rows => liftExcept (rows.mapM fun r => evalList subs [] r)
  | .join kind l r lw rw cond => do
    let rights ← run host subs r
    let lefts ← run host subs l
    liftExcept (joinRows subs kind lw rw cond lefts rights)
  | .filter p cond => do
    let rows ← run host subs p
    liftExcept (filterRows subs cond rows)
  | .project p es => do
    let rows ← run host subs p
    liftExcept (projectRows subs es rows)
  | .aggregate p groups aggs => do
    let rows ← run host subs p
    liftExcept (aggregateRows subs groups aggs rows)
  | .distinct p => do
    let rows ← run host subs p
    pure (dedupRows rows)
  | .setOp op all l r => do
    let ls ← run host subs l
    let rs ← run host subs r
    pure (match op, all with
      | .union, true => ls ++ rs
      | .union, false => dedupRows (ls ++ rs)
      | .except, true => rowsIn false ls rs
      | .except, false => dedupRows (rowsIn false ls rs)
      | .intersect, true => rowsIn true ls rs
      | .intersect, false => dedupRows (rowsIn true ls rs))
  | .order p keys => do
    let rows ← run host subs p
    pure (sortRows keys rows)
  | .limit p lim off => do
    let rows ← run host subs p
    let rows := rows.drop off
    pure (match lim with
      | some n => rows.take n
      | none => rows)
  | .withSubs ps p => do
    let vals ← runSubs host ps
    run host vals p

/-- Runs a block's scalar subqueries in order, each to its first value. -/
def runSubs (host : Host σ β) : List (Plan β) → ExecM σ (List Val)
  | [] => pure []
  | p :: ps => do
    let rows ← run host [] p
    let rest ← runSubs host ps
    pure (firstValue rows :: rest)

end

end Exec

end CqlBridge.Sql
