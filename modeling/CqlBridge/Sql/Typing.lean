import CqlBridge.Sql.Catalog
import CqlBridge.Sql.Naming
import CqlBridge.Sql.Eval

/-!
# `CqlBridge.Sql.Typing` — the types of operators and functions

Operands of different types meet at a common type before an operator applies:

* A NULL literal takes the other operand's type; a string literal takes any non-text type; an
  integer literal takes the other operand's integer type when it fits there.
* Two integer types meet at the wider; a signed and an unsigned type at a signed type wide
  enough for both. Integers and decimals meet at a decimal; anything numeric and `FLOAT` at
  `FLOAT`, and `DOUBLE` at `DOUBLE`.
* `DATE` and `TIMESTAMP` meet at `TIMESTAMP`, and either with `TIMESTAMP WITH TIME ZONE` at the
  latter. Lists meet element-wise.

Arithmetic keeps the common type, except that `/` divides in `DOUBLE` (or `FLOAT`), and that
decimal `+` and `-` widen by one digit while `*` adds the widths and the scales.
-/

namespace CqlBridge.Sql

/-- What a literal was, so that it can take the type its neighbour asks for. -/
inductive LitKind where
  | none
  | int (v : Int)
  | str (s : String)
  | null
  deriving Repr, Inhabited

/-- A bound expression with its type. -/
structure Typed where
  e : BExpr
  ty : Ty
  lit : LitKind := .none
  deriving Repr, Inhabited

/-- The NULL literal. -/
def Typed.nullLit : Typed := ⟨.const .null, .null, .null⟩

/-- An expression converted to `ty`, unless it has that type already. -/
def Typed.coerce (t : Typed) (ty : Ty) : Typed :=
  if Ty.beq t.ty ty then t else ⟨.cast t.ty ty false none t.e, ty, .none⟩

/-- Whether an integer type is signed. -/
def Ty.signedInt : Ty → Bool
  | .tinyint | .smallint | .integer | .bigint | .hugeint => true
  | _ => false

/-- The width of an integer type in bits. -/
def Ty.intBits : Ty → Nat
  | .tinyint | .utinyint => 8
  | .smallint | .usmallint => 16
  | .integer | .uinteger => 32
  | .bigint | .ubigint => 64
  | _ => 128

/-- The signed integer type of a width. -/
def signedOfBits : Nat → Ty
  | 8 => .tinyint
  | 16 => .smallint
  | 32 => .integer
  | 64 => .bigint
  | _ => .hugeint

/-- The type two integer types meet at. -/
def intUnify (a b : Ty) : Ty :=
  if a.signedInt == b.signedInt then (if a.intBits ≥ b.intBits then a else b)
  else
    let (s, u) := if a.signedInt then (a, b) else (b, a)
    if s.intBits > u.intBits then s else signedOfBits (2 * u.intBits)

/-- Whether an integer fits a type. -/
def fitsIn (ty : Ty) (v : Int) : Bool :=
  match ty.intRange? with
  | some (lo, hi) => lo ≤ v && v ≤ hi
  | none => false

/-- The decimal type an integer or decimal type reads as. -/
def asDecimal : Ty → Nat × Nat
  | .decimal w s => (w, s)
  | t => (t.intDigits, 0)

/-- The type two types meet at, without looking at literals. -/
def typeUnify : Ty → Ty → Option Ty
  | a, b =>
    if Ty.beq a b then some a
    else if a == .null then some b
    else if b == .null then some a
    else if a.isInteger && b.isInteger then some (intUnify a b)
    else if a.isNumeric && b.isNumeric then
      if a == .double || b == .double then some .double
      else if a == .float || b == .float then some .float
      else
        let (w1, s1) := asDecimal a
        let (w2, s2) := asDecimal b
        let s := max s1 s2
        some (.decimal (min 38 (max (w1 - s1) (w2 - s2) + s)) s)
    else match a, b with
      | .date, .timestamp | .timestamp, .date => some .timestamp
      | .date, .timestamptz | .timestamptz, .date | .timestamp, .timestamptz
      | .timestamptz, .timestamp => some .timestamptz
      | .list x, .list y => (typeUnify x y).map .list
      | _, _ => none

/-- The type two operands meet at, letting literals adapt. -/
def unify (a b : Typed) : Option Ty :=
  if Ty.beq a.ty b.ty then some a.ty else
  match a.lit, b.lit with
  | .null, _ => some b.ty
  | _, .null => some a.ty
  | .str _, _ => if b.ty == .varchar then some .varchar else some b.ty
  | _, .str _ => some a.ty
  | .int v, _ => if b.ty.isInteger && fitsIn b.ty v then some b.ty else typeUnify a.ty b.ty
  | _, .int v => if a.ty.isInteger && fitsIn a.ty v then some a.ty else typeUnify a.ty b.ty
  | _, _ => typeUnify a.ty b.ty

/-- The type several operands meet at; NULL for none. -/
def unifyAll : List Typed → Option Ty
  | [] => some .null
  | [t] => some t.ty
  | t :: ts => do
    let rest ← unifyAll ts
    unify t ⟨t.e, rest, .none⟩

/-- A binder error at a span. -/
def binderError (message : String) (span : Option Span) : SqlError := ⟨.binder, message, span⟩

/-- The error for an operator that does not apply to its operand types. -/
def noMatch (fn : String) (args : List Ty) (span : Option Span) : SqlError :=
  binderError ("No function matches the given name and argument types '" ++ fn ++ "(" ++
    ", ".intercalate (args.map (·.name)) ++
    ")'. You might need to add explicit type casts.") span

/-- The arithmetic operator a symbol names. -/
def arithOf? : String → Option ArithOp
  | "+" => some .add
  | "-" => some .sub
  | "*" => some .mul
  | "/" => some .div
  | "//" => some .intDiv
  | "%" => some .mod
  | _ => none

/-- The comparison a symbol names. -/
def cmpOf? : String → Option CmpOp
  | "=" | "==" => some .eq
  | "<>" | "!=" => some .ne
  | "<" => some .lt
  | "<=" => some .le
  | ">" => some .gt
  | ">=" => some .ge
  | _ => none

/-- Arithmetic on two typed operands. -/
def bindArith (sym : String) (a : ArithOp) (x y : Typed) (span : Option Span) :
    Except SqlError Typed :=
  let fail := Except.error (noMatch sym [x.ty, y.ty] span)
  match unify x y with
  | none => fail
  | some ty =>
    if !ty.isNumeric && ty != .null then fail else
    let ty := if ty == .null then .integer else ty
    match a, ty with
    | .div, t =>
      let t := if t == .float then Ty.float else Ty.double
      .ok ⟨.op (.arith .div t) [(x.coerce t).e, (y.coerce t).e], t, .none⟩
    | .mul, .decimal .. =>
      let (w1, s1) := asDecimal (if x.ty == .null then ty else x.ty)
      let (w2, s2) := asDecimal (if y.ty == .null then ty else y.ty)
      let tx : Ty := .decimal w1 s1
      let ty' : Ty := .decimal w2 s2
      let r : Ty := .decimal (min 38 (w1 + w2)) (s1 + s2)
      .ok ⟨.op (.arith .mul r) [(x.coerce tx).e, (y.coerce ty').e], r, .none⟩
    | .add, .decimal w s | .sub, .decimal w s =>
      let r : Ty := .decimal (min 38 (w + 1)) s
      .ok ⟨.op (.arith a r) [(x.coerce r).e, (y.coerce r).e], r, .none⟩
    | _, t => .ok ⟨.op (.arith a t) [(x.coerce t).e, (y.coerce t).e], t, .none⟩

/-- An infix operator applied to two typed operands. -/
def bindBinary (op : String) (x y : Typed) (span : Option Span) : Except SqlError Typed :=
  match op with
  | "and" => .ok ⟨.op .and [(x.coerce .boolean).e, (y.coerce .boolean).e], .boolean, .none⟩
  | "or" => .ok ⟨.op .or [(x.coerce .boolean).e, (y.coerce .boolean).e], .boolean, .none⟩
  | "||" => .ok ⟨.op .concat [(x.coerce .varchar).e, (y.coerce .varchar).e], .varchar, .none⟩
  | "like" | "ilike" | "~~" | "~~*" =>
    .ok ⟨.op (.like (op == "ilike" || op == "~~*") false)
      [(x.coerce .varchar).e, (y.coerce .varchar).e], .boolean, .none⟩
  | _ =>
    match cmpOf? op with
    | some c =>
      match unify x y with
      | some ty => .ok ⟨.op (.cmp c) [(x.coerce ty).e, (y.coerce ty).e], .boolean, .none⟩
      | none => .error (binderError ("Cannot compare values of type " ++ x.ty.name ++
          " and type " ++ y.ty.name ++ " - an explicit cast is required") span)
    | none =>
      match arithOf? op with
      | some a => bindArith op a x y span
      | none => .error (noMatch op [x.ty, y.ty] span)

/-- The aggregate function a name calls. -/
def aggOf? : String → Option AggFn
  | "count" => some .count
  | "count_star" => some .countStar
  | "sum" => some .sum
  | "min" => some .min
  | "max" => some .max
  | "avg" | "mean" => some .avg
  | "any_value" | "arbitrary" => some .anyValue
  | "first" => some .first
  | _ => none

/-- An aggregate over typed arguments. -/
def bindAgg (name : String) (fn : AggFn) (args : List Typed) (distinct : Bool)
    (span : Option Span) : Except SqlError Agg :=
  match fn, args with
  | .countStar, _ | .count, [] => .ok ⟨.countStar, .const .null, .null, false, .bigint⟩
  | .count, [a] => .ok ⟨.count, a.e, a.ty, distinct, .bigint⟩
  | .sum, [a] =>
    let ty := a.ty
    if ty.isInteger || ty == .boolean || ty == .null then
      .ok ⟨.sum, (a.coerce (if ty == .boolean then .integer else ty)).e, ty, distinct, .hugeint⟩
    else if ty.isFloating then .ok ⟨.sum, a.e, ty, distinct, .double⟩
    else match ty with
      | .decimal _ s => .ok ⟨.sum, a.e, ty, distinct, .decimal 38 s⟩
      | _ => .error (noMatch name [ty] span)
  | .avg, [a] =>
    if a.ty.isNumeric || a.ty == .null then .ok ⟨.avg, a.e, a.ty, distinct, .double⟩
    else .error (noMatch name [a.ty] span)
  | .min, [a] | .max, [a] | .anyValue, [a] | .first, [a] => .ok ⟨fn, a.e, a.ty, distinct, a.ty⟩
  | _, _ => .error (noMatch name (args.map (·.ty)) span)

/-- A scalar function applied to typed arguments. -/
def bindScalar (name : String) (args : List Typed) (span : Option Span) :
    Except SqlError Typed :=
  let fail := Except.error (noMatch name (args.map (·.ty)) span)
  match name, args with
  | "typeof", [a] => .ok ⟨.const (.text a.ty.name), .varchar, .none⟩
  | "hex", [a] | "to_hex", [a] =>
    let a := if a.ty == .varchar || a.ty == .blob || a.ty.isInteger then a else a.coerce .varchar
    .ok ⟨.op (.hex a.ty) [a.e], .varchar, .none⟩
  | "isnan", [a] | "isinf", [a] =>
    let a := if a.ty.isFloating then a else a.coerce .double
    .ok ⟨.op (if name == "isnan" then .isNan a.ty else .isInf a.ty) [a.e], .boolean, .none⟩
  | "length", [a] | "len", [a] | "char_length", [a] | "character_length", [a] =>
    let a := match a.ty with
      | .list _ | .blob | .varchar => a
      | _ => a.coerce .varchar
    .ok ⟨.op (.length a.ty) [a.e], .bigint, .none⟩
  | "epoch_us", [a] =>
    match a.ty with
    | .interval | .timestamp | .timestamptz | .date => .ok ⟨.op (.epochUs a.ty) [a.e], .bigint, .none⟩
    | _ => fail
  | "lower", [a] | "lcase", [a] => .ok ⟨.op .lower [(a.coerce .varchar).e], .varchar, .none⟩
  | "upper", [a] | "ucase", [a] => .ok ⟨.op .upper [(a.coerce .varchar).e], .varchar, .none⟩
  | "abs", [a] => if a.ty.isNumeric then .ok ⟨.op (.abs a.ty) [a.e], a.ty, .none⟩ else fail
  | "coalesce", as | "ifnull", as =>
    match unifyAll as with
    | some ty => .ok ⟨.op .coalesce (as.map (·.coerce ty |>.e)), ty, .none⟩
    | none => fail
  | "map", [] => .ok ⟨.op .mapOf [.const (.list []), .const (.list [])], .map .null .null, .none⟩
  | "map", [k, v] =>
    match k.ty, v.ty with
    | .list kt, .list vt => .ok ⟨.op .mapOf [k.e, v.e], .map kt vt, .none⟩
    | _, _ => fail
  | "list_value", as | "list_pack", as =>
    match unifyAll as with
    | some ty => .ok ⟨.op .listValue (as.map (·.coerce ty |>.e)), .list ty, .none⟩
    | none => fail
  | "concat", as =>
    .ok ⟨.op .coalesce [(as.foldl (fun acc a =>
      .op .concat [acc, .op .coalesce [(a.coerce .varchar).e, .const (.text "")]])
      (.const (.text ""))), .const (.text "")], .varchar, .none⟩
  | _, _ =>
    if ["typeof", "hex", "to_hex", "isnan", "isinf", "length", "len", "epoch_us", "lower",
        "upper", "abs", "map"].contains name then fail
    else .error ⟨.catalog, "Scalar Function with name " ++ name ++ " does not exist!", span⟩

end CqlBridge.Sql
