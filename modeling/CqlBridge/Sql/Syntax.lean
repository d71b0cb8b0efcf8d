import CqlBridge.Sql.Ty

/-!
# `CqlBridge.Sql.Syntax` — statements of the query language as trees

An expression, a query, a select item, a `FROM` source, a table-function argument and an
`ORDER BY` term refer to one another, so they are one family of types. Pieces that an error may
point at carry the `Span` of their text: a column reference, a cast (from its `::` to the end of
the type), a function call, a `FROM` source, a named argument's value.

A query is a `SELECT` block, a `VALUES` list, or two queries combined by `UNION`, `EXCEPT` or
`INTERSECT`; `ORDER BY`, `LIMIT` and `OFFSET` wrap a query.
-/

namespace CqlBridge.Sql

/-- A stretch of the statement text: where it starts and how many characters it spans. -/
structure Span where
  pos : Nat
  len : Nat
  deriving Repr, Inhabited, DecidableEq

/-- The span from the start of `a` to the end of `b`. -/
def Span.join (a b : Span) : Span := ⟨a.pos, b.pos + b.len - a.pos⟩

/-- A literal as written. -/
inductive Literal where
  /-- A number, by its text. -/
  | number (text : String)
  | string (s : String)
  | null
  | bool (b : Bool)
  deriving Repr, Inhabited

/-- How two queries combine. -/
inductive SetOp where
  | union | except | intersect
  deriving Repr, DecidableEq, Inhabited

/-- The kinds of join. -/
inductive JoinKind where
  | inner | left | right | full | cross
  deriving Repr, DecidableEq, Inhabited

/-- Units an interval literal may count in. -/
inductive IntervalUnit where
  | year | month | day | hour | minute | second | millisecond | microsecond | week
  deriving Repr, DecidableEq, Inhabited

mutual

/-- An expression. -/
inductive Expr where
  | lit (l : Literal) (span : Span)
  /-- A column, by its name and the names qualifying it. -/
  | col (parts : List String) (span : Span)
  /-- `*` or `t.*`, as a select item or an argument of `count`. -/
  | star (qual : Option String) (span : Span)
  /-- `COLUMNS(*)`: one expression per column of the sources. -/
  | columns (span : Span)
  /-- A prefix operator: `-`, `+` or `NOT`. -/
  | unary (op : String) (e : Expr) (span : Span)
  /-- An infix operator, `AND` and `OR` included. -/
  | binary (op : String) (a b : Expr) (span : Span)
  /-- `e IS [NOT] NULL`. -/
  | isNull (e : Expr) (neg : Bool)
  /-- `e::ty` or `CAST(e AS ty)`; the span covers `::ty`, or the whole `CAST(…)`. -/
  | cast (e : Expr) (ty : Ty) (tryCast : Bool) (span : Span)
  /-- `INTERVAL e unit`. -/
  | interval (e : Expr) (unit : IntervalUnit) (span : Span)
  /-- A function call; `star` for `f(*)`. -/
  | call (name : String) (args : List Expr) (distinct : Bool) (star : Bool) (span : Span)
  | subquery (q : Query) (span : Span)
  | exists (q : Query) (span : Span)
  /-- `e [NOT] IN (items)`. -/
  | inList (e : Expr) (items : List Expr) (neg : Bool) (span : Span)
  /-- `e [NOT] BETWEEN lo AND hi`. -/
  | between (e lo hi : Expr) (neg : Bool) (span : Span)
  /-- `CASE [operand] WHEN … THEN … [ELSE …] END`. -/
  | caseWhen (operand : Option Expr) (whens : List (Expr × Expr)) (otherwise : Option Expr)
      (span : Span)
  /-- `[a, b, …]`. -/
  | list (items : List Expr) (span : Span)
  /-- `{'name': value, …}`. -/
  | struct (fields : List (String × Expr)) (span : Span)

/-- A query. -/
inductive Query where
  | select (distinct : Bool) (items : List Item) (sources : List Source) (filter : Option Expr)
      (groups : List Expr) (having : Option Expr)
  | values (rows : List (List Expr)) (span : Span)
  | setOp (op : SetOp) (all : Bool) (l r : Query)
  /-- A query with `ORDER BY`, `LIMIT` and `OFFSET`. -/
  | ordered (q : Query) (order : List Order) (limit offset : Option Expr)

/-- A select item: `*`, or an expression with an optional alias. -/
inductive Item where
  | expr (e : Expr) (label : Option String)

/-- A `FROM` source. -/
inductive Source where
  /-- A stored table or view, by its name and the names qualifying it. -/
  | table (name : List String) (label : Option String) (span : Span)
  /-- A table function call, with `alias(columns…)` renaming its columns. -/
  | func (name : String) (args : List Arg) (label : Option String) (columns : List String)
      (span : Span)
  | sub (q : Query) (label : Option String) (columns : List String)
  /-- Two sources joined, `ON` a condition or `USING` columns of both. -/
  | join (kind : JoinKind) (l r : Source) (cond : Option Expr) (shared : List String)

/-- A table-function argument: positional, or `name := value`. -/
inductive Arg where
  | pos (e : Expr)
  | named (name : String) (e : Expr)

/-- An `ORDER BY` term: direction, and where NULLs go when given. -/
inductive Order where
  | term (e : Expr) (desc : Bool) (nullsFirst : Option Bool)

end

/-- A column of a table definition. -/
structure ColumnDef where
  name : String
  ty : Ty

/-- A statement, with the span of its text. -/
inductive Stmt where
  | query (q : Query)
  /-- `CREATE TABLE name AS query`. -/
  | createTableAs (name : String) (q : Query) (orReplace ifNotExists : Bool)
  /-- `CREATE TABLE name (columns…)`. -/
  | createTable (name : String) (columns : List ColumnDef) (orReplace ifNotExists : Bool)
  /-- `CREATE VIEW name AS query`. -/
  | createView (name : String) (q : Query) (orReplace : Bool)
  /-- `INSERT INTO name [(columns…)] query`. -/
  | insert (name : String) (columns : Option (List String)) (q : Query) (span : Span)
  /-- `DROP TABLE` or `DROP VIEW`. -/
  | drop (view : Bool) (name : String) (ifExists : Bool) (span : Span)

namespace Expr

/-- The span of an expression's text, where it has one. -/
def span? : Expr → Option Span
  | .lit _ s | .col _ s | .star _ s | .columns s | .unary _ _ s | .binary _ _ _ s
  | .cast _ _ _ s | .interval _ _ s | .call _ _ _ _ s | .subquery _ s | .exists _ s
  | .inList _ _ _ s | .between _ _ _ _ s | .caseWhen _ _ _ s | .list _ s | .struct _ s => some s
  | .isNull e _ => e.span?

end Expr

end CqlBridge.Sql
