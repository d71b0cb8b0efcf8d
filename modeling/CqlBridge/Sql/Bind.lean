import CqlBridge.Sql.Typing

/-!
# `CqlBridge.Sql.Bind` — resolving names and building plans

Binding walks a query from its `FROM` clause outwards:

1. Each source is bound: a stored table gives its rows, a view binds its stored query (errors
   inside a view point nowhere), a table function is bound by its host, a subquery is bound
   as a block of its own. Joins put the columns of both sides side by side; `USING` columns
   of the right side are then reached only through their qualifier.
2. `*`, `t.*` and `COLUMNS(*)` expand to one item per visible column.
3. `WHERE` filters the rows. A block aggregates when it has `GROUP BY` or an aggregate call in
   its items or `HAVING`: its items then read the group keys and the aggregates, and a column
   that is neither is an error.
4. `ORDER BY` takes an ordinal, an item's name, an item's expression, or any expression over
   the sources (computed as a hidden column). `LIMIT` and `OFFSET` are constants.

Each block collects its scalar subqueries, which run before it (`Plan.withSubs`).

Every function takes a fuel argument bounding the depth of the syntax it walks.
-/

namespace CqlBridge.Sql

/-- A column a name can reach: the name of its source, its own name and its type. -/
structure Binding where
  qual : String
  name : String
  ty : Ty
  /-- Reached only through its qualifier: the right side of a `USING` column. -/
  hidden : Bool := false
  deriving Inhabited

/-- The state binding threads: the host's state, and the current block's subqueries and
aggregates. -/
structure BindState (σ β : Type) where
  ext : σ
  subs : List (Plan β) := []
  aggs : List Agg := []

/-- The binding monad; the state survives an error. -/
abbrev BindM (σ β : Type) := EStateM SqlError (BindState σ β)

/-- How a block's expressions see their input. -/
inductive Mode where
  /-- Row by row over the sources; `clause` names the clause for an aggregate found there. -/
  | plain (clause : String)
  /-- Over groups: each key's text, the source column it is (if it is one), and its type. -/
  | grouped (keys : List String) (cols : List (Option Nat)) (types : List Ty)

/-- A bound query: its plan and its result columns. -/
structure Bound (β : Type) where
  plan : Plan β
  columns : List Column

/-- What binding reads: the host of table functions and the database. -/
structure BindEnv (σ β : Type) where
  host : Host σ β
  db : Database

namespace Bind

variable {σ β : Type}

/-- Fails with an error. -/
def fail {α : Type} (e : SqlError) : BindM σ β α := throw e

/-- Runs a result that may have failed. -/
def liftExcept {α : Type} : Except SqlError α → BindM σ β α
  | .ok a => pure a
  | .error e => throw e

/-- Runs a step of the host. -/
def liftHost {α : Type} (f : σ → σ × Except SqlError α) : BindM σ β α := fun s =>
  let (ext, r) := f s.ext
  match r with
  | .ok a => .ok a { s with ext := ext }
  | .error e => .error e { s with ext := ext }

/-- Adds a scalar subquery to the block; its number. -/
def addSub (p : Plan β) : BindM σ β Nat := modifyGet fun s =>
  (s.subs.length, { s with subs := s.subs ++ [p] })

/-- Adds an aggregate to the block; its number. -/
def addAgg (a : Agg) : BindM σ β Nat := modifyGet fun s =>
  (s.aggs.length, { s with aggs := s.aggs ++ [a] })

/-- The error for a binding depth beyond the fuel. -/
def tooDeep : SqlError := ⟨.parser, "statement is nested too deeply", none⟩

/-- Candidates for a column that is not found, most similar first. -/
def candidates (scope : List Binding) (name : String) : List String :=
  let scored := scope.filterMap fun b =>
    if b.hidden then none else some (jaroWinkler b.name name, b.qual ++ "." ++ b.name)
  let sorted := scored.mergeSort (fun a b => !b.1.gt a.1)
  (sorted.take 5).map (fun p => "\"" ++ p.2 ++ "\"")

/-- Resolves a column reference to its position in the row. -/
def resolve (scope : List Binding) (parts : List String) (span : Span) :
    Except SqlError (Nat × Binding) :=
  let indexed := scope.zipIdx
  let name := parts.getLast?.getD ""
  let same := Database.sameName
  match parts.reverse with
  | [_] =>
    match indexed.filter (fun (b, _) => !b.hidden && same b.name name) with
    | [(b, i)] => .ok (i, b)
    | (b, i) :: rest =>
      if rest.all (fun (c, _) => same c.qual b.qual) then .ok (i, b)
      else .error (binderError ("Ambiguous reference to column name \"" ++ name ++ "\" (use: " ++
        " or ".intercalate (((b, i) :: rest).map fun (c, _) =>
          "\"" ++ c.qual ++ "." ++ c.name ++ "\"") ++ ")") (some span))
    | [] => .error (binderError ("Referenced column \"" ++ name ++
        "\" not found in FROM clause!" ++
        (match candidates scope name with
          | [] => ""
          | cs => "\nCandidate bindings: " ++ ", ".intercalate cs)) (some span))
  | _ :: qual :: _ =>
    match indexed.find? (fun (b, _) => same b.qual qual && same b.name name) with
    | some (b, i) => .ok (i, b)
    | none =>
      if indexed.any (fun (b, _) => same b.qual qual) then
        .error (binderError ("Table \"" ++ qual ++ "\" does not have a column named \"" ++ name ++
          "\"") (some span))
      else .error (binderError ("Referenced table \"" ++ qual ++ "\" not found!") (some span))
  | [] => .error (binderError "empty column reference" (some span))

/-- The typed value of a literal. -/
def literal (l : Literal) : Typed :=
  match l with
  | .number t =>
    let (ty, v) := numberLiteral t
    match v with
    | .int i => ⟨.const v, ty, .int i⟩
    | _ => ⟨.const v, ty, .none⟩
  | .string s => ⟨.const (.text s), .varchar, .str s⟩
  | .null => Typed.nullLit
  | .bool b => ⟨.const (.bool b), .boolean, .none⟩

mutual

/-- Whether an expression calls an aggregate, outside its subqueries. -/
def hasAgg : Expr → Bool
  | .call name args _ isStar _ => isStar || (aggOf? (lowerAscii name)).isSome || hasAggList args
  | .unary _ e _ | .isNull e _ | .cast e _ _ _ | .interval e _ _ => hasAgg e
  | .binary _ a b _ => hasAgg a || hasAgg b
  | .inList e items _ _ => hasAgg e || hasAggList items
  | .between e lo hi _ _ => hasAgg e || hasAgg lo || hasAgg hi
  | .caseWhen operand whens otherwise _ =>
    (match operand with
      | some o => hasAgg o
      | none => false) || hasAggPairs whens ||
    (match otherwise with
      | some o => hasAgg o
      | none => false)
  | .list items _ => hasAggList items
  | .struct fields _ => hasAggFields fields
  | _ => false

/-- Whether some expression of a list calls an aggregate. -/
def hasAggList : List Expr → Bool
  | [] => false
  | e :: es => hasAgg e || hasAggList es

/-- Whether some branch of a `CASE` calls an aggregate. -/
def hasAggPairs : List (Expr × Expr) → Bool
  | [] => false
  | (c, r) :: ws => hasAgg c || hasAgg r || hasAggPairs ws

/-- Whether some struct field calls an aggregate. -/
def hasAggFields : List (String × Expr) → Bool
  | [] => false
  | (_, e) :: fs => hasAgg e || hasAggFields fs

end

mutual

/-- Whether an expression holds `COLUMNS(*)`. -/
def hasColumns : Expr → Bool
  | .columns _ => true
  | .call _ args _ _ _ => hasColumnsList args
  | .unary _ e _ | .isNull e _ | .cast e _ _ _ | .interval e _ _ => hasColumns e
  | .binary _ a b _ => hasColumns a || hasColumns b
  | .inList e items _ _ => hasColumns e || hasColumnsList items
  | .between e lo hi _ _ => hasColumns e || hasColumns lo || hasColumns hi
  | .list items _ => hasColumnsList items
  | _ => false

/-- Whether some expression of a list holds `COLUMNS(*)`. -/
def hasColumnsList : List Expr → Bool
  | [] => false
  | e :: es => hasColumns e || hasColumnsList es

end

mutual

/-- The expression with `COLUMNS(*)` replaced by `r`. -/
def replaceColumns (r : Expr) : Expr → Expr
  | .columns _ => r
  | .call n args d s sp => .call n (replaceColumnsList r args) d s sp
  | .unary op e sp => .unary op (replaceColumns r e) sp
  | .isNull e neg => .isNull (replaceColumns r e) neg
  | .cast e ty t sp => .cast (replaceColumns r e) ty t sp
  | .interval e u sp => .interval (replaceColumns r e) u sp
  | .binary op a b sp => .binary op (replaceColumns r a) (replaceColumns r b) sp
  | .inList e items neg sp => .inList (replaceColumns r e) (replaceColumnsList r items) neg sp
  | .between e lo hi neg sp =>
    .between (replaceColumns r e) (replaceColumns r lo) (replaceColumns r hi) neg sp
  | .list items sp => .list (replaceColumnsList r items) sp
  | e => e

/-- Each expression of a list with `COLUMNS(*)` replaced. -/
def replaceColumnsList (r : Expr) : List Expr → List Expr
  | [] => []
  | e :: es => replaceColumns r e :: replaceColumnsList r es

end

/-- The select items with stars and `COLUMNS(*)` expanded: expressions and their names. -/
def expandItems (scope : List Binding) : List Item → Except SqlError (List (Expr × String))
  | [] => .ok []
  | .expr e label :: rest => do
    let here ← match e with
      | .star none span =>
        .ok (scope.filter (!·.hidden) |>.map fun b => (Expr.col [b.qual, b.name] span, b.name))
      | .star (some q) span =>
        match scope.filter (fun b => Database.sameName b.qual q) with
        | [] => .error (binderError ("Referenced table \"" ++ q ++ "\" not found!") (some span))
        | bs => .ok (bs.map fun b => (Expr.col [b.qual, b.name] span, b.name))
      | _ =>
        if hasColumns e then
          let span := (e.span?).getD ⟨0, 0⟩
          .ok (scope.filter (!·.hidden) |>.map fun b =>
            (replaceColumns (.col [b.qual, b.name] span) e, b.name))
        else .ok [(e, label.getD e.columnName)]
    let more ← expandItems scope rest
    .ok (here ++ more)

/-- The expression a `GROUP BY` term stands for: an ordinal or an item's name picks an item. -/
def groupTerm (items : List (Expr × String)) (scope : List Binding) (e : Expr) :
    Except SqlError Expr :=
  match e with
  | .lit (.number t) span =>
    match t.toNat? with
    | some k =>
      if 1 ≤ k && k ≤ items.length then .ok ((items[k - 1]?).map (·.1) |>.getD e)
      else .error (binderError ("GROUP BY term out of range - should be between 1 and " ++
        toString items.length) (some span))
    | none => .ok e
  | .col [name] span =>
    match resolve scope [name] span with
    | .ok _ => .ok e
    | .error err =>
      match items.find? (fun (_, n) => Database.sameName n name) with
      | some (ie, _) => .ok ie
      | none => .error err
  | _ => .ok e

/-- The rows of `range` and `generate_series`. -/
def rangeRows (inclusive : Bool) (args : List Int) : Except SqlError (List Row) :=
  let (lo, hi, step) : Int × Int × Int := match args with
    | [n] => (0, n, 1)
    | [a, b] => (a, b, 1)
    | [a, b, s] => (a, b, s)
    | _ => (0, 0, 1)
  if step == 0 then .error (binderError "step size cannot be zero" none) else
  let hi := if inclusive then (if step > 0 then hi + 1 else hi - 1) else hi
  let count : Nat :=
    if step > 0 then (if hi > lo then ((hi - lo + step - 1) / step).toNat else 0)
    else (if lo > hi then ((lo - hi - step - 1) / (-step)).toNat else 0)
  .ok ((List.range count).map fun (i : Nat) => [.int (lo + step * (i : Int))])

/-- A constant expression's value. -/
def constValue (t : Typed) : Except SqlError Val := eval [] [] t.e

/-- Columns renamed by an alias list, as far as it reaches. -/
def renameColumns (cols : List Column) (names : List String) : List Column :=
  cols.zipIdx.map fun (c, i) => { c with name := (names[i]?).getD c.name }

/-- The bindings of a source's columns under a qualifier. -/
def bindingsOf (qual : String) (cols : List Column) : List Binding :=
  cols.map fun c => ⟨qual, c.name, c.ty, false⟩

/-- Sort keys for the `ORDER BY` of a set operation, by ordinal or result name. -/
def outputKeys (cols : List Column) : List Order → Except SqlError (List SortKey)
  | [] => .ok []
  | .term e desc nulls :: rest => do
    let i ← match e with
      | .lit (.number t) span =>
        match t.toNat? with
        | some k =>
          if 1 ≤ k && k ≤ cols.length then .ok (k - 1)
          else .error (binderError ("ORDER term out of range - should be between 1 and " ++
            toString cols.length) (some span))
        | none => .error (binderError "ORDER BY non-integer literal has no effect" (some span))
      | .col [name] span =>
        match cols.findIdx? (fun c => Database.sameName c.name name) with
        | some i => .ok i
        | none => .error (binderError ("Referenced column \"" ++ name ++
            "\" not found in FROM clause!") (some span))
      | _ => .error (binderError ("Could not ORDER BY column \"" ++ e.text ++
          "\": add the expression/function to every SELECT, or move the UNION into a FROM " ++
          "clause.") e.span?)
    let more ← outputKeys cols rest
    .ok (⟨i, desc, nulls.getD false⟩ :: more)

/-- The plan limited by constant `LIMIT` and `OFFSET` values. -/
def limited (p : Plan β) (limit offset : Option Val) : Plan β :=
  let n := fun (v : Option Val) => match v with
    | some (.int i) => some i.toNat
    | _ => none
  match n limit, n offset with
  | none, none => p
  | l, o => .limit p l (o.getD 0)

mutual

/-- Binds an expression over a scope. -/
def expr (env : BindEnv σ β) : Nat → List Binding → Mode → Expr → BindM σ β Typed
  | 0, _, _, _ => fail tooDeep
  | fuel + 1, scope, mode, e => do
    -- in an aggregating block, a group key read as a whole
    if let .grouped keys _ types := mode then
      if !(e matches .col ..) then
        if let some g := keys.findIdx? (· == e.text) then
          return ⟨.col g, (types[g]?).getD .null, .none⟩
    match e with
    | .lit l _ => return literal l
    | .col parts span =>
      let (i, b) ← liftExcept (resolve scope parts span)
      match mode with
      | .plain _ => return ⟨.col i, b.ty, .none⟩
      | .grouped _ cols types =>
        match cols.findIdx? (· == some i) with
        | some g => return ⟨.col g, (types[g]?).getD b.ty, .none⟩
        | none =>
          let n := b.name
          fail (binderError ("column \"" ++ n ++ "\" must appear in the GROUP BY clause or " ++
            "must be part of an aggregate function.\nEither add it to the GROUP BY list, or " ++
            "use \"ANY_VALUE(" ++ n ++ ")\" if the exact value of \"" ++ n ++
            "\" is not important.") (some span))
    | .star _ span =>
      fail (binderError "STAR expression is only allowed as the root element of an expression"
        (some span))
    | .columns span =>
      fail (binderError "COLUMNS expression is only allowed in the SELECT list" (some span))
    | .unary op x span =>
      let t ← expr env fuel scope mode x
      if op == "NOT" then return ⟨.op .not [(t.coerce .boolean).e], .boolean, .none⟩
      else if op == "-" then
        if t.ty.isNumeric || t.ty == .interval || t.ty == .null then
          return ⟨.op (.neg t.ty) [t.e], t.ty, .none⟩
        else fail (noMatch "-" [t.ty] (some span))
      else return t
    | .binary op a b span =>
      let ta ← expr env fuel scope mode a
      let tb ← expr env fuel scope mode b
      liftExcept (bindBinary op ta tb (some span))
    | .isNull x neg =>
      let t ← expr env fuel scope mode x
      return ⟨.isNull neg t.e, .boolean, .none⟩
    | .cast x ty tryCast span =>
      let t ← expr env fuel scope mode x
      if castable t.ty ty then return ⟨.cast t.ty ty tryCast (some span) t.e, ty, .none⟩
      else fail (binderError ("Unimplemented type for cast (" ++ t.ty.name ++ " -> " ++
        ty.name ++ ")") (some span))
    | .interval x unit _ =>
      let t ← expr env fuel scope mode x
      let t := if t.ty.isInteger then t else t.coerce .bigint
      let (m, d, us) := unitParts unit
      return ⟨.op (.interval m d us) [t.e], .interval, .none⟩
    | .call name args distinct isStar span =>
      let fn := lowerAscii name
      let agg := if isStar then (if fn == "count" then some AggFn.countStar else none)
        else aggOf? fn
      match agg with
      | some a =>
        match mode with
        | .plain clause =>
          fail (binderError ("aggregate function calls cannot be used in " ++ clause)
            (some span))
        | .grouped keys _ _ =>
          let targs ← exprs env fuel scope (.plain "an aggregate's arguments") args
          let ag ← liftExcept (bindAgg fn a targs distinct (some span))
          let i ← addAgg ag
          return ⟨.col (keys.length + i), ag.ty, .none⟩
      | none =>
        if isStar then fail (noMatch fn [] (some span)) else
        let targs ← exprs env fuel scope mode args
        liftExcept (bindScalar fn targs (some span))
    | .subquery q span =>
      let b ← block env fuel q
      match b.columns with
      | [c] =>
        let i ← addSub b.plan
        return ⟨.sub i, c.ty, .none⟩
      | cs => fail (binderError ("Subquery returns " ++ toString cs.length ++
          " columns - expected 1") (some span))
    | .exists q _ =>
      let b ← block env fuel q
      let counted : Plan β := .aggregate (.limit b.plan (some 1) 0) []
        [⟨.countStar, .const .null, .null, false, .bigint⟩]
      let i ← addSub counted
      return ⟨.op (.cmp .gt) [.sub i, .const (.int 0)], .boolean, .none⟩
    | .inList x items neg span =>
      let t ← expr env fuel scope mode x
      let ts ← exprs env fuel scope mode items
      match unifyAll (t :: ts) with
      | some ty => return ⟨.inList neg (t.coerce ty).e (ts.map (·.coerce ty |>.e)), .boolean, .none⟩
      | none => fail (binderError ("Cannot compare values of type " ++ t.ty.name ++
          " in IN list") (some span))
    | .between x lo hi neg span =>
      let t ← expr env fuel scope mode x
      let tl ← expr env fuel scope mode lo
      let th ← expr env fuel scope mode hi
      let ge ← liftExcept (bindBinary ">=" t tl (some span))
      let le ← liftExcept (bindBinary "<=" t th (some span))
      let both : BExpr := .op .and [ge.e, le.e]
      return ⟨if neg then .op .not [both] else both, .boolean, .none⟩
    | .caseWhen operand whens otherwise span =>
      let top ← match operand with
        | some o => some <$> expr env fuel scope mode o
        | none => pure none
      let tws ← whenPairs env fuel scope mode whens
      let tel ← match otherwise with
        | some o => expr env fuel scope mode o
        | none => pure Typed.nullLit
      let conds ← tws.mapM fun (c, _) => match top with
        | some o => liftExcept (bindBinary "=" o c (some span))
        | none => pure (c.coerce .boolean)
      match unifyAll (tel :: tws.map (·.2)) with
      | some ty =>
        return ⟨.caseWhen ((conds.zip tws).map fun (c, (_, r)) => (c.e, (r.coerce ty).e))
          (tel.coerce ty).e, ty, .none⟩
      | none => fail (binderError "Cannot mix types in CASE expression" (some span))
    | .list items _ =>
      let ts ← exprs env fuel scope mode items
      let ty := (unifyAll ts).getD .varchar
      return ⟨.op .listValue (ts.map (·.coerce ty |>.e)), .list ty, .none⟩
    | .struct fields _ =>
      let ts ← exprs env fuel scope mode (fields.map (·.2))
      return ⟨.op .structPack (ts.map (·.e)),
        .struct ((fields.map (·.1)).zip (ts.map (·.ty))), .none⟩

/-- Binds expressions over a scope. -/
def exprs (env : BindEnv σ β) : Nat → List Binding → Mode → List Expr → BindM σ β (List Typed)
  | 0, _, _, _ => fail tooDeep
  | _ + 1, _, _, [] => pure []
  | fuel + 1, scope, mode, e :: es => do
    let t ← expr env fuel scope mode e
    let ts ← exprs env fuel scope mode es
    return t :: ts

/-- Binds the branches of a `CASE`. -/
def whenPairs (env : BindEnv σ β) : Nat → List Binding → Mode → List (Expr × Expr) →
    BindM σ β (List (Typed × Typed))
  | 0, _, _, _ => fail tooDeep
  | _ + 1, _, _, [] => pure []
  | fuel + 1, scope, mode, (c, r) :: ws => do
    let tc ← expr env fuel scope mode c
    let tr ← expr env fuel scope mode r
    let rest ← whenPairs env fuel scope mode ws
    return (tc, tr) :: rest

/-- Binds a query as a block of its own: its subqueries and aggregates are its own. -/
def block (env : BindEnv σ β) : Nat → Query → BindM σ β (Bound β)
  | 0, _ => fail tooDeep
  | fuel + 1, q => do
    let saved ← get
    set { saved with subs := ([] : List (Plan β)), aggs := ([] : List Agg) }
    let b ← query env fuel q
    modify fun s => { s with subs := saved.subs, aggs := saved.aggs }
    return b

/-- Binds a query in the current block. -/
def query (env : BindEnv σ β) : Nat → Query → BindM σ β (Bound β)
  | 0, _ => fail tooDeep
  | fuel + 1, q =>
    match q with
    | .select d its srcs f g h => select env fuel d its srcs f g h [] none none
    | .ordered (.select d its srcs f g h) order lim off =>
      select env fuel d its srcs f g h order lim off
    | .ordered inner order lim off => do
      let b ← block env fuel inner
      let keys ← liftExcept (outputKeys b.columns order)
      let lv ← constant env fuel lim
      let ov ← constant env fuel off
      let p := if keys.isEmpty then b.plan else .order b.plan keys
      return ⟨limited p lv ov, b.columns⟩
    | .values rows span => do
      let trows ← valueRows env fuel rows
      let width := (trows.head?.map List.length).getD 0
      if trows.any (·.length != width) then
        fail (binderError "VALUES lists must all be the same length" (some span))
      let types := (List.range width).map fun j =>
        (unifyAll (trows.map fun r => (r[j]?).getD Typed.nullLit)).getD .varchar
      let types := types.map fun t => if t == .null then Ty.integer else t
      let cols := types.zipIdx.map fun (t, j) => (⟨"col" ++ toString j, t⟩ : Column)
      return ⟨.values (trows.map fun r => (r.zip types).map fun (t, ty) => (t.coerce ty).e),
        cols⟩
    | .setOp op all l r => do
      let bl ← block env fuel l
      let br ← block env fuel r
      if bl.columns.length != br.columns.length then
        fail (binderError ("Set operations can only apply to expressions with the same " ++
          "number of result columns") none)
      let types := (bl.columns.zip br.columns).map fun (a, b) =>
        (typeUnify a.ty b.ty).getD .varchar
      let recast := fun (b : Bound β) =>
        if (b.columns.zip types).all (fun (c, t) => Ty.beq c.ty t) then b.plan
        else .project b.plan ((b.columns.zip types).zipIdx.map fun ((c, t), i) =>
          (Typed.coerce ⟨.col i, c.ty, .none⟩ t).e)
      let cols := (bl.columns.zip types).map fun (c, t) => ({ c with ty := t } : Column)
      return ⟨.setOp op all (recast bl) (recast br), cols⟩

/-- Binds the rows of a `VALUES` list. -/
def valueRows (env : BindEnv σ β) : Nat → List (List Expr) → BindM σ β (List (List Typed))
  | 0, _ => fail tooDeep
  | _ + 1, [] => pure []
  | fuel + 1, r :: rs => do
    let t ← exprs env fuel [] (.plain "VALUES") r
    let ts ← valueRows env fuel rs
    return t :: ts

/-- The value of a constant `LIMIT` or `OFFSET`. -/
def constant (env : BindEnv σ β) : Nat → Option Expr → BindM σ β (Option Val)
  | 0, _ => fail tooDeep
  | _ + 1, none => pure none
  | fuel + 1, some e => do
    let t ← expr env fuel [] (.plain "LIMIT") e
    let v ← liftExcept (constValue (t.coerce .bigint))
    return some v

/-- Binds a `SELECT` block with its `ORDER BY`, `LIMIT` and `OFFSET`. -/
def select (env : BindEnv σ β) : Nat → Bool → List Item → List Source → Option Expr →
    List Expr → Option Expr → List Order → Option Expr → Option Expr → BindM σ β (Bound β)
  | 0, _, _, _, _, _, _, _, _, _ => fail tooDeep
  | fuel + 1, distinct, items, sources, filter, groups, having, order, lim, off => do
    let (from_, scope) ← fromList env fuel sources
    let items ← liftExcept (expandItems scope items)
    let filtered ← match filter with
      | some f => do
        let t ← expr env fuel scope (.plain "WHERE clause") f
        pure (Plan.filter from_ (t.coerce .boolean).e)
      | none => pure from_
    let aggregating := !groups.isEmpty || hasAggList (items.map (·.1)) ||
      (match having with
        | some h => hasAgg h
        | none => false)
    let (input, mode) ← if aggregating then do
        let gexprs ← liftExcept (groups.mapM (groupTerm items scope))
        let gts ← exprs env fuel scope (.plain "GROUP BY clause") gexprs
        let cols := gexprs.map fun g => match g with
          | .col parts span => ((resolve scope parts span).toOption.map (·.1))
          | _ => none
        let keyExprs := gts.map (·.e)
        modify fun s => { s with aggs := ([] : List Agg) }
        pure (Plan.aggregate filtered keyExprs [],
          Mode.grouped (gexprs.map Expr.text) cols (gts.map (·.ty)))
      else pure (filtered, Mode.plain "SELECT list")
    let its ← exprs env fuel scope mode (items.map (·.1))
    let hv ← match having with
      | some h => some <$> expr env fuel scope mode h
      | none => pure none
    let (keys, extras) ← orderTerms env fuel scope mode items order [] []
    let aggs := (← get).aggs
    let input := match input with
      | .aggregate p gs _ => .aggregate p gs aggs
      | p => p
    let input := match hv with
      | some h => .filter input (h.coerce .boolean).e
      | none => input
    let projected := Plan.project input ((its ++ extras).map (·.e))
    let projected := if distinct then .distinct projected else projected
    let ordered := if keys.isEmpty then projected else .order projected keys
    let trimmed := if extras.isEmpty then ordered
      else .project ordered ((List.range its.length).map BExpr.col)
    let lv ← constant env fuel lim
    let ov ← constant env fuel off
    let plan := limited trimmed lv ov
    let subs := (← get).subs
    let plan := if subs.isEmpty then plan else .withSubs subs plan
    let cols := (items.zip its).map fun ((_, n), t) => (⟨n, t.ty⟩ : Column)
    return ⟨plan, cols⟩

/-- Resolves `ORDER BY` terms of a block to sort keys, adding hidden columns as needed;
`extras` are the hidden columns so far. -/
def orderTerms (env : BindEnv σ β) : Nat → List Binding → Mode → List (Expr × String) →
    List Order → List SortKey → List Typed → BindM σ β (List SortKey × List Typed)
  | 0, _, _, _, _, _, _ => fail tooDeep
  | _ + 1, _, _, _, [], keys, extras => pure (keys, extras)
  | fuel + 1, scope, mode, items, .term e desc nulls :: rest, keys, extras => do
    let nullsFirst := nulls.getD false
    let byItem : Option Nat := match e with
      | .col [name] _ => items.findIdx? (fun (_, n) => Database.sameName n name)
      | _ => items.findIdx? (fun (ie, _) => ie.text == e.text)
    match e with
    | .lit (.number t) span =>
      match t.toNat? with
      | some k =>
        if 1 ≤ k && k ≤ items.length then
          orderTerms env fuel scope mode items rest (keys ++ [⟨k - 1, desc, nullsFirst⟩]) extras
        else fail (binderError ("ORDER term out of range - should be between 1 and " ++
          toString items.length) (some span))
      | none =>
        orderTerms env fuel scope mode items rest keys extras
    | _ =>
      match byItem with
      | some i => orderTerms env fuel scope mode items rest (keys ++ [⟨i, desc, nullsFirst⟩]) extras
      | none =>
        let t ← expr env fuel scope mode e
        let i := items.length + extras.length
        orderTerms env fuel scope mode items rest (keys ++ [⟨i, desc, nullsFirst⟩]) (extras ++ [t])

/-- Binds the sources of a `FROM` clause, joined without a condition. -/
def fromList (env : BindEnv σ β) : Nat → List Source → BindM σ β (Plan β × List Binding)
  | 0, _ => fail tooDeep
  | _ + 1, [] => pure (.values [[]], [])
  | fuel + 1, s :: rest => do
    let first ← source env fuel s
    crossRest env fuel first rest

/-- Joins further sources onto the bound ones, left to right. -/
def crossRest (env : BindEnv σ β) : Nat → Plan β × List Binding → List Source →
    BindM σ β (Plan β × List Binding)
  | 0, _, _ => fail tooDeep
  | _ + 1, acc, [] => pure acc
  | fuel + 1, (pl, bl), s :: rest => do
    let (pr, br) ← source env fuel s
    crossRest env fuel (.join .cross pl pr bl.length br.length none, bl ++ br) rest

/-- Binds one source. -/
def source (env : BindEnv σ β) : Nat → Source → BindM σ β (Plan β × List Binding)
  | 0, _ => fail tooDeep
  | fuel + 1, s =>
    match s with
    | .table parts label span => do
      let name := parts.getLast?.getD ""
      match env.db.view? name with
      | some v =>
        let b ← tryCatch (block env fuel v.query) (fun e => throw e.unplaced)
        let cols := renameColumns b.columns v.columns
        return (b.plan, bindingsOf (label.getD v.name) cols)
      | none =>
        match env.db.table? name with
        | some t => return (.rows t.rows, bindingsOf (label.getD t.name) t.columns)
        | none => fail (missingTable env.db name span)
    | .sub q label cols => do
      let b ← block env fuel q
      return (b.plan, bindingsOf (label.getD "unnamed_subquery") (renameColumns b.columns cols))
    | .func name args label cols span => do
      let (plan, columns, qual) ← call env fuel name args span
      return (plan, bindingsOf (label.getD qual) (renameColumns columns cols))
    | .join kind l r cond shared => do
      let (pl, bl) ← source env fuel l
      let (pr, br) ← source env fuel r
      let scope := bl ++ br
      match cond with
      | some c =>
        let t ← expr env fuel scope (.plain "JOIN condition") c
        return (.join kind pl pr bl.length br.length (some (t.coerce .boolean).e), scope)
      | none =>
        if shared.isEmpty then return (.join kind pl pr bl.length br.length none, scope)
        let pairs ← liftExcept (shared.mapM fun n => do
          let some li := bl.findIdx? (fun b => !b.hidden && Database.sameName b.name n)
            | .error (binderError ("Column \"" ++ n ++
                "\" does not exist on left side of join!") none)
          let some ri := br.findIdx? (fun b => !b.hidden && Database.sameName b.name n)
            | .error (binderError ("Column \"" ++ n ++
                "\" does not exist on right side of join!") none)
          .ok (li, ri))
        let conds ← liftExcept (pairs.mapM fun (li, ri) =>
          let lb := (bl[li]?).getD default
          let rb := (br[ri]?).getD default
          bindBinary "=" ⟨.col li, lb.ty, .none⟩ ⟨.col (bl.length + ri), rb.ty, .none⟩ none)
        let cond := match conds with
          | [] => BExpr.const (.bool true)
          | c :: cs => cs.foldl (fun acc d => .op .and [acc, d.e]) c.e
        let hiddenRight := br.zipIdx.map fun (b, i) =>
          if pairs.any (·.2 == i) then { b with hidden := true } else b
        return (.join kind pl pr bl.length br.length (some cond), bl ++ hiddenRight)

/-- Binds a table function call: its plan, its columns and the qualifier of its columns. -/
def call (env : BindEnv σ β) : Nat → String → List Arg → Span →
    BindM σ β (Plan β × List Column × String)
  | 0, _, _, _ => fail tooDeep
  | fuel + 1, name, args, span => do
    let fn := lowerAscii name
    let positional := args.filterMap fun a => match a with
      | .pos e => some e
      | .named .. => none
    let named := args.filterMap fun a => match a with
      | .named n e => some (n, e)
      | .pos _ => none
    let ptyped ← exprs env fuel [] (.plain "table function arguments") positional
    let ntyped ← exprs env fuel [] (.plain "table function arguments") (named.map (·.2))
    if fn == "range" || fn == "generate_series" then
      let vals ← liftExcept (ptyped.mapM fun t => constValue (t.coerce .bigint))
      let ints := vals.filterMap fun v => match v with
        | .int i => some i
        | _ => none
      if ints.length != vals.length || vals.isEmpty || vals.length > 3 then
        fail (noMatch fn (ptyped.map (·.ty)) (some span))
      let rows ← liftExcept (rangeRows (fn == "generate_series") ints)
      return (.rows rows, [⟨fn, .bigint⟩], fn)
    match env.host.functions.find? (fun f => Database.sameName f.name fn) with
    | none => fail ⟨.catalog, "Table Function with name " ++ fn ++ " does not exist!", some span⟩
    | some tf =>
      if ptyped.length != tf.params.length then
        fail (binderError ("No function matches the given name and argument types '" ++ fn ++
          "(" ++ ", ".intercalate (ptyped.map (·.ty.name)) ++
          ")'. You might need to add explicit type casts.\n\tCandidate functions:\n\t" ++ fn ++
          "(" ++ ", ".intercalate (tf.params.map (·.name)) ++ ")\n") (some span))
      for ((n, e), _) in named.zip ntyped do
        if !(tf.named.any fun (m, _) => Database.sameName m n) then
          fail (binderError ("Invalid named parameter \"" ++ n ++ "\" for function " ++ fn)
            e.span?)
      let pvals ← liftExcept ((ptyped.zip tf.params).mapM fun (t, ty) => constValue (t.coerce ty))
      let nvals ← liftExcept ((named.zip ntyped).mapM fun ((n, _), t) => do
        let ty := ((tf.named.find? fun (m, _) => Database.sameName m n).map (·.2)).getD .varchar
        let v ← constValue (t.coerce ty)
        .ok (lowerAscii n, v))
      let (columns, handle) ← liftHost fun s =>
        let (s, r) := env.host.bind tf.name pvals nvals s
        (s, r.mapError fun e =>
          if e.kind == .binder && e.span.isNone then { e with span := some span } else e)
      return (.scan handle, columns, tf.name)

end

end Bind

end CqlBridge.Sql
