import CqlBridge.Sql.Error
import CqlBridge.Sql.Val

/-!
# `CqlBridge.Sql.Plan` — bound expressions and query plans

Binding turns a statement's syntax into a plan whose names are all resolved:

* A bound expression reads the columns of its input row by position, and the values of the
  block's scalar subqueries by number; every operation carries the types it computes with, so
  evaluating one needs nothing but the row.
* A plan is a tree of relational operators. Its leaves are table-function scans (handled by
  the host that bound them, of type `β`), stored rows, and `VALUES` lists. A `withSubs` node
  runs its scalar subqueries first and hands their values to the plan below it.

Aggregation puts the group keys first and the aggregate values after them; expressions above
an aggregation read that row.
-/

namespace CqlBridge.Sql

/-- Arithmetic operators. -/
inductive ArithOp where
  | add | sub | mul
  /-- `/`: the binder gives it floating-point or decimal operands. -/
  | div
  /-- `//`: division of integers, truncating. -/
  | intDiv
  | mod
  deriving DecidableEq, Repr, Inhabited

/-- Comparison operators. -/
inductive CmpOp where
  | eq | ne | lt | le | gt | ge
  deriving DecidableEq, Repr, Inhabited

/-- Scalar operations; each carries the operand types it computes with. -/
inductive Op where
  /-- Arithmetic on two operands of the type given, with a result of that type. -/
  | arith (a : ArithOp) (ty : Ty)
  | neg (ty : Ty)
  | cmp (c : CmpOp)
  | and | or | not
  /-- `||` on text. -/
  | concat
  /-- `LIKE` (or `ILIKE` when caseless), negated for `NOT LIKE`. -/
  | like (caseless neg : Bool)
  /-- Upper-case hex of text bytes, of a byte string, or of an integer. -/
  | hex (ty : Ty)
  | isNan (ty : Ty)
  | isInf (ty : Ty)
  /-- Characters of text, bytes of a byte string, items of a list. -/
  | length (ty : Ty)
  /-- Microseconds of an interval or since the epoch. -/
  | epochUs (ty : Ty)
  | lower | upper
  | abs (ty : Ty)
  | coalesce
  /-- A map from a list of keys and a list of values. -/
  | mapOf
  | listValue
  | structPack
  /-- An interval of a count of a unit: months, days and microseconds per unit. -/
  | interval (months days micros : Int)
  deriving Repr, Inhabited

/-- A bound expression. -/
inductive BExpr where
  | const (v : Val)
  /-- The input row's column. -/
  | col (i : Nat)
  /-- The value of the block's scalar subquery. -/
  | sub (i : Nat)
  | op (o : Op) (args : List BExpr)
  /-- A conversion; a failure is a conversion error at `span`, or NULL for `TRY_CAST`. -/
  | cast (src dst : Ty) (tryCast : Bool) (span : Option Span) (e : BExpr)
  | isNull (neg : Bool) (e : BExpr)
  | caseWhen (whens : List (BExpr × BExpr)) (otherwise : BExpr)
  | inList (neg : Bool) (e : BExpr) (items : List BExpr)
  deriving Repr, Inhabited

/-- Aggregate functions. -/
inductive AggFn where
  | countStar | count | sum | min | max | avg | anyValue | first
  deriving DecidableEq, Repr, Inhabited

/-- An aggregate: its function, its argument and the argument's type, `DISTINCT`, and the
type of its result. -/
structure Agg where
  fn : AggFn
  arg : BExpr
  argTy : Ty
  distinct : Bool
  ty : Ty
  deriving Repr, Inhabited

/-- A sort key: a column of the input, the direction, and where NULLs go. -/
structure SortKey where
  col : Nat
  desc : Bool
  nullsFirst : Bool
  deriving Repr, Inhabited

/-- A query plan over host scans of type `β`. -/
inductive Plan (β : Type) where
  | scan (b : β)
  | rows (rs : List Row)
  | values (rows : List (List BExpr))
  /-- Rows of `l` and `r` side by side, `lw` and `rw` columns wide. -/
  | join (kind : JoinKind) (l r : Plan β) (lw rw : Nat) (cond : Option BExpr)
  | filter (p : Plan β) (cond : BExpr)
  | project (p : Plan β) (exprs : List BExpr)
  | aggregate (p : Plan β) (groups : List BExpr) (aggs : List Agg)
  | distinct (p : Plan β)
  | setOp (op : SetOp) (all : Bool) (l r : Plan β)
  | order (p : Plan β) (keys : List SortKey)
  | limit (p : Plan β) (limit : Option Nat) (offset : Nat)
  | withSubs (subs : List (Plan β)) (p : Plan β)

end CqlBridge.Sql
